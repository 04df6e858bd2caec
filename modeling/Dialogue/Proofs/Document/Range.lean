/-
Numbers in range. A document that was read of a text holds integers and doubles in the range of their types and no
singles, and what is read of such a document is in range as well: values are well formed, doubles and singles have
significands and exponents of their formats. That goes through every reader, for each keeps to parts of what it is
given.
-/
import Dialogue.Proofs.Document.Readers
import Dialogue.Proofs.Number.Rounding

namespace Dialogue

/-! ## What readers give -/

namespace Read

variable {α β : Type} {read : Read α} {next : α → Read β} {P : α → Prop} {R : β → Prop}

/-- Whatever the reader finds has a property. -/
def Gives (read : Read α) (P : α → Prop) : Prop := ∀ budget a left, read budget = some (a, left) → P a

theorem gives_pure {a : α} (h : P a) : Gives (pure a : Read α) P := by
  rintro budget b left ⟨⟩
  exact h

theorem gives_failure : Gives (failure : Read α) P := nofun

theorem gives_found {found : Option α} (h : ∀ a ∈ found, P a) : Gives (Read.found found) P := by
  cases found with
  | none => exact nofun
  | some a => exact gives_pure (h a rfl)

theorem gives_true (read : Read α) : Gives read fun _ => True := fun _ _ _ _ => trivial

theorem Gives.bind (hread : Gives read P) (hnext : ∀ a, P a → Gives (next a) R) : Gives (read >>= next) R := by
  intro budget b left hrun
  obtain ⟨⟨a, between⟩, ha, hb⟩ := Option.bind_eq_some_iff.1 hrun
  exact hnext a (hread budget a between ha) between b left hb

theorem gives_mapM {γ : Type} {read : γ → Read α} {cs : List γ} (h : ∀ c ∈ cs, Gives (read c) P) :
    Gives (cs.mapM read) fun as => ∀ a ∈ as, P a := by
  induction cs with
  | nil => exact gives_pure fun a ha => absurd ha List.not_mem_nil
  | cons c cs ih =>
    obtain ⟨hc, hcs⟩ := List.forall_mem_cons.1 h
    rw [List.mapM_cons]
    exact hc.bind fun a ha => (ih hcs).bind fun as has => gives_pure (List.forall_mem_cons.2 ⟨ha, has⟩)

end Read

open Read

/-! ## Numbers of a text -/

namespace Binary

variable {f : FloatFormat}

theorem ofInt_fits (hf : f.Proper) (n : Int) : (ofInt f n).Fits f := ofRatio_fits hf _ _ Nat.one_pos

theorem toFormat_fits (hf : f.Proper) (x : Binary) : (x.toFormat f).Fits f := by
  cases x with
  | finite s m e => exact ofRatio_fits hf s _ (scaleTwo_snd_pos m Nat.one_pos e)
  | infinite s => trivial
  | nan => trivial

theorem zero_fits (hf : f.Proper) (negative : Bool) : (finite negative 0 f.least).Fits f :=
  finite_fits (Nat.two_pow_pos _) (le_refl _) hf.exponents

end Binary

theorem Decimal.toBinary_fits {f : FloatFormat} (hf : f.Proper) (x : Decimal) : (x.toBinary f).Fits f := by
  unfold toBinary
  dsimp only
  split_ifs
  · exact Binary.zero_fits hf _
  · trivial
  · exact Binary.zero_fits hf _
  · exact Binary.ofRatio_fits hf _ _ (Binary.scaleTen_snd_pos _ Nat.one_pos _)

theorem FloatText.word?_fits {negative : Bool} {s : List Char} : ∀ x ∈ word? negative s, x.Fits .double := by
  intro x hx
  unfold word? at hx
  dsimp only at hx
  split_ifs at hx <;> cases hx <;> trivial

theorem FloatText.read?_fits (s : List Char) : ∀ x ∈ read? s, x.Fits .double := by
  intro x hx
  unfold read? at hx
  split at hx
  · cases hx
    exact Decimal.toBinary_fits FloatFormat.proper_double _
  · split at hx <;> exact word?_fits x hx

theorem Word.float?_fits (s : String) : ∀ x ∈ float? s, x.Fits .double := by
  intro x hx
  unfold float? at hx
  dsimp only at hx
  split_ifs at hx
  · cases hx
    trivial
  · cases hx
    trivial
  · cases hx
    trivial
  · split at hx
    · rename_i y hy
      split_ifs at hx <;> cases hx
      exact FloatText.read?_fits _ x hy
    · cases hx

/-- A number in the range of its type. -/
def Number.InRange : Number → Prop
  | .integer n => -2 ^ 63 ≤ n ∧ n ≤ maxInteger
  | .double x => x.Fits .double
  | .single x => x.Fits .single

/-- A number that text can hold: an integer or a double in range. -/
def Number.FromText : Number → Prop
  | .single _ => False
  | n => n.InRange

theorem Number.FromText.toDouble_fits {n : Number} (h : n.FromText) : n.toDouble.Fits .double := by
  cases n with
  | integer n => exact Binary.ofInt_fits FloatFormat.proper_double n
  | double x => exact h
  | single x => cases h

theorem Number.FromText.toSingle_fits {n : Number} (h : n.FromText) : n.toSingle.Fits .single := by
  cases n with
  | integer n => exact Binary.ofInt_fits FloatFormat.proper_single n
  | double x => exact Binary.toFormat_fits FloatFormat.proper_single x
  | single x => cases h

/-- Content that text can hold. -/
def Scalar.FromText : Scalar → Prop
  | .number n => n.FromText
  | _ => True

namespace Document

/-- A document that text can hold. -/
inductive FromText : Document → Prop
  | leaf {l : Leaf} : l.value.FromText → FromText (.leaf l)
  | list {strict : Bool} {ds : List Document} : (∀ d ∈ ds, FromText d) → FromText (.list strict ds)
  | table {strict : Bool} {entries : List (Document × Document)} : (∀ e ∈ entries, FromText e.1) →
    (∀ e ∈ entries, FromText e.2) → FromText (.table strict entries)
  | labelled {label : String} {d : Document} : FromText d → FromText (.labelled label d)
  | shared {d : Document} : FromText d → FromText (.shared d)

variable {α : Type} {d : Document} {P : α → Prop}

/-! ## Parts of documents -/

theorem FromText.follow (h : d.FromText) : Gives d.follow FromText := by
  induction h with
  | shared h ih =>
    rw [Document.follow]
    exact (gives_true _).bind fun _ _ => ih
  | leaf h => exact gives_pure (.leaf h)
  | list h => exact gives_pure (.list h)
  | table hkeys h => exact gives_pure (.table hkeys h)
  | labelled h => exact gives_pure (.labelled h)

theorem FromText.content (h : d.FromText) : Gives d.content FromText := by
  refine h.follow.bind fun d hd => gives_pure ?_
  cases hd with
  | labelled h => exact h
  | leaf h => exact .leaf h
  | list h => exact .list h
  | table hkeys h => exact .table hkeys h
  | shared h => exact .shared h

theorem FromText.leaf? (h : d.FromText) : Gives d.leaf? fun l => l.value.FromText := by
  refine h.content.bind fun d hd => ?_
  cases hd with
  | leaf h => exact gives_pure h
  | _ => exact gives_failure

theorem FromText.nullable? {read : Document → Read α} (h : d.FromText)
    (hread : ∀ d : Document, d.FromText → Gives (read d) P) : Gives (nullable? read d) fun o => ∀ a ∈ o, P a := by
  refine h.follow.bind fun d hd => ?_
  split_ifs
  · exact gives_failure
  · exact gives_pure nofun
  · refine (hread d hd).bind fun a ha => gives_pure ?_
    rintro b ⟨⟩
    exact ha

theorem FromText.listOf? {read : Document → Read α} (h : d.FromText)
    (hread : ∀ d : Document, d.FromText → Gives (read d) P) : Gives (listOf? read d) fun as => ∀ a ∈ as, P a := by
  refine h.content.bind fun d hd => ?_
  cases hd with
  | list h => exact gives_mapM fun d hd => hread d (h d hd)
  | _ =>
    dsimp only
    split_ifs
    · exact gives_pure fun a ha => absurd ha List.not_mem_nil
    · exact gives_failure

theorem FromText.dictionaryOf? {read : Document → Read α} (h : d.FromText)
    (hread : ∀ d : Document, d.FromText → Gives (read d) P) :
    Gives (dictionaryOf? read d) fun dictionary => ∀ e ∈ dictionary.entries, P e.2 := by
  refine h.content.bind fun d hd => ?_
  cases hd with
  | table hkeys h =>
    refine (gives_mapM (P := fun e => P e.2) fun e he => ?_).bind fun fields hfields =>
      gives_pure fun e he => hfields e (Entries.mem_ofList he)
    exact (gives_true _).bind fun key _ =>
      (hread e.2 (h e he)).bind fun v hv => gives_pure hv
  | _ =>
    dsimp only
    split_ifs
    · exact gives_pure fun e he => absurd he List.not_mem_nil
    · exact gives_failure

/-! ## Fields -/

/-- The documents of all fields are such that text can hold them. -/
def FieldsFromText (fields : List (String × Document)) : Prop := ∀ f ∈ fields, f.2.FromText

theorem gives_knownFields? {names : List String} {entries : List (Document × Document)}
    (h : ∀ e ∈ entries, e.2.FromText) : Gives (knownFields? names entries) FieldsFromText := by
  induction entries with
  | nil => exact gives_pure fun f hf => absurd hf List.not_mem_nil
  | cons e entries ih =>
    obtain ⟨he, hentries⟩ := List.forall_mem_cons.1 h
    obtain ⟨key, d⟩ := e
    refine (gives_true _).bind fun name _ =>
      (ih hentries).bind fun fields hfields => ?_
    cases name with
    | none => exact gives_pure hfields
    | some name =>
      dsimp only
      split_ifs
      · exact gives_failure
      · exact gives_pure (List.forall_mem_cons.2 ⟨he, hfields⟩)

theorem FromText.record? (h : d.FromText) (names : List String) : Gives (record? names d) FieldsFromText := by
  refine h.content.bind fun d hd => ?_
  cases hd with
  | table hkeys h => exact gives_knownFields? h
  | list h =>
    dsimp only
    split_ifs
    · refine gives_pure fun f hf => h f.2 ?_
      exact (List.of_mem_zip hf).2
    · exact gives_failure
  | _ =>
    dsimp only
    split_ifs
    · exact gives_pure fun f hf => absurd hf List.not_mem_nil
    · exact gives_failure

theorem FieldsFromText.find? {fields : List (String × Document)} (h : FieldsFromText fields) {name : String} :
    ∀ d ∈ Entries.find? name fields, d.FromText := by
  induction fields with
  | nil => exact nofun
  | cons f fields ih =>
    obtain ⟨hf, hfields⟩ := List.forall_mem_cons.1 h
    intro d hd
    rw [Entries.find?] at hd
    split_ifs at hd
    · cases hd
      exact hf
    · exact ih hfields d hd

theorem FieldsFromText.required? {fields : List (String × Document)} (h : FieldsFromText fields) (name : String)
    {read : Document → Read α} (hread : ∀ d : Document, d.FromText → Gives (read d) P) :
    Gives (required? fields name read) P :=
  (gives_found h.find?).bind hread

theorem FieldsFromText.optional? {fields : List (String × Document)} (h : FieldsFromText fields) (name : String)
    {default : α} {read : Document → Read α} (hdefault : P default)
    (hread : ∀ d : Document, d.FromText → Gives (read d) P) : Gives (optional? fields name default read) P := by
  unfold Document.optional?
  split
  · exact gives_pure hdefault
  · rename_i d hd
    exact hread d (h.find? d hd)

/-! ## Settled documents -/

theorem FromText.settleAll {ds : List Document} (h : ∀ d ∈ ds, Gives d.settle FromText) :
    Gives (settleAll ds) fun ds => ∀ d ∈ ds, d.FromText := by
  induction ds with
  | nil => exact gives_pure fun d hd => absurd hd List.not_mem_nil
  | cons d ds ih =>
    obtain ⟨hd, hds⟩ := List.forall_mem_cons.1 h
    exact hd.bind fun d hd => (ih hds).bind fun ds hds => gives_pure (List.forall_mem_cons.2 ⟨hd, hds⟩)

theorem FromText.settleEntries {entries : List (Document × Document)} (hkeys : ∀ e ∈ entries, Gives e.1.settle FromText)
    (h : ∀ e ∈ entries, Gives e.2.settle FromText) :
    Gives (settleEntries entries) fun entries =>
      (∀ e ∈ entries, e.1.FromText) ∧ ∀ e ∈ entries, e.2.FromText := by
  induction entries with
  | nil => exact gives_pure ⟨fun e he => absurd he List.not_mem_nil, fun e he => absurd he List.not_mem_nil⟩
  | cons e entries ih =>
    obtain ⟨hk, hkeys⟩ := List.forall_mem_cons.1 hkeys
    obtain ⟨hd, h⟩ := List.forall_mem_cons.1 h
    exact hk.bind fun k hk => hd.bind fun d hd => (ih hkeys h).bind fun entries hentries =>
      gives_pure ⟨List.forall_mem_cons.2 ⟨hk, hentries.1⟩, List.forall_mem_cons.2 ⟨hd, hentries.2⟩⟩

theorem FromText.settle (h : d.FromText) : Gives d.settle FromText := by
  induction h with
  | leaf h =>
    rw [Document.settle]
    split_ifs
    · exact gives_failure
    · exact gives_pure (.leaf h)
  | list h ih => exact (FromText.settleAll ih).bind fun ds hds => gives_pure (.list hds)
  | table hkeys h ihk ih =>
    exact (FromText.settleEntries ihk ih).bind fun entries hentries => gives_pure (.table hentries.1 hentries.2)
  | labelled h ih => exact gives_failure
  | shared h ih => exact (gives_true _).bind fun _ _ => ih

/-! ## Numbers -/

theorem gives_natural? (limit : Nat) (d : Document) : Gives (natural? limit d) fun n => n ≤ limit := by
  refine (gives_true _).bind fun l _ => gives_found fun n hn => ?_
  simpa using (Option.filter_eq_some_iff.1 hn).2

theorem number?_inRange {l : Leaf} (h : l.value.FromText) : ∀ n ∈ l.number?, n.FromText := by
  intro n hn
  unfold Leaf.number? at hn
  split_ifs at hn
  · obtain ⟨x, hx, rfl⟩ := Option.map_eq_some_iff.1 hn
    obtain ⟨s, -, hs⟩ := Option.bind_eq_some_iff.1 hx
    exact Word.float?_fits s x hs
  · cases hl : l.value with
    | number m =>
      rw [hl] at h hn
      cases hn
      exact h
    | minusZero =>
      rw [hl] at hn
      cases hn
      exact ⟨by decide, by decide⟩
    | _ =>
      rw [hl] at hn
      cases hn
  · cases hn

theorem FromText.double? (h : d.FromText) : Gives (double? d) fun x => x.Fits .double :=
  h.leaf?.bind fun _ hl => (gives_found (number?_inRange hl)).bind fun _ hn => gives_pure hn.toDouble_fits

theorem FromText.single? (h : d.FromText) : Gives (single? d) fun x => x.Fits .single :=
  h.leaf?.bind fun _ hl => (gives_found (number?_inRange hl)).bind fun _ hn => gives_pure hn.toSingle_fits

end Document

/-! ## Values -/

/-- A value that text can hold. -/
def Value.FromText (v : Value) : Prop := v.WellFormed ∧ (Document.ofValue v).FromText

namespace Document

variable {d : Document}

theorem anyValue?_fromText {l : Leaf} (h : l.value.FromText) : ∀ v ∈ l.anyValue?, v.FromText := by
  intro v hv
  unfold Leaf.anyValue? at hv
  cases hl : l.value with
  | number n =>
    rw [hl] at h hv
    cases n with
    | integer n =>
      cases hv
      exact ⟨.integer, .leaf h⟩
    | double x =>
      cases hv
      split_ifs with hfinite
      · exact ⟨.double hfinite, .leaf h⟩
      · exact ⟨.null, .leaf trivial⟩
    | single x => cases h
  | minusZero =>
    rw [hl] at hv
    cases hv
    exact ⟨.integer, .leaf ⟨by decide, by decide⟩⟩
  | unreadable =>
    rw [hl] at hv
    cases hv
  | null =>
    rw [hl] at hv
    cases hv
    exact ⟨.null, .leaf trivial⟩
  | bool b =>
    rw [hl] at hv
    cases hv
    exact ⟨.bool, .leaf trivial⟩
  | text s =>
    rw [hl] at hv
    cases hv
    exact ⟨.text, .leaf trivial⟩

theorem FromText.value? (h : d.FromText) : Gives (value? d) Value.FromText := by
  induction h with
  | leaf h =>
    rw [Document.value?]
    exact gives_found (anyValue?_fromText h)
  | list h ih =>
    rw [Document.value?, values?_eq]
    refine (gives_mapM ih).bind fun vs hvs => gives_pure ⟨.list fun v hv => (hvs v hv).1, ?_⟩
    rw [ofValue, ofValues_eq]
    exact .list (List.forall_mem_map.2 fun v hv => (hvs v hv).2)
  | table hkeys h ihk ih =>
    rw [Document.value?, fields?_eq]
    refine (gives_mapM (P := fun f => f.2.FromText) fun e he => ?_).bind fun fields hfields =>
      gives_pure ⟨.ofFields fun f hf => (hfields f hf).1, ?_⟩
    · exact (gives_true _).bind fun key _ => (ih e he).bind fun v hv => gives_pure hv
    · rw [Value.ofFields, ofValue, ofFields_eq]
      exact .table (List.forall_mem_map.2 fun f _ => .leaf trivial)
        (List.forall_mem_map.2 fun f hf => (hfields f (Entries.mem_ofList hf)).2)
  | labelled h ih => exact gives_failure
  | shared h ih => exact (gives_true _).bind fun _ _ => ih

end Document

end Dialogue
