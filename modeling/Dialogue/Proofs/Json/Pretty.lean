/-
Pretty text is read back. What is read is the document that was written, with the content of each leaf as its own text
is read: the document that the text echoes. A double comes back as some double, and a number that is not finite as
null; nothing else about the tree is lost but what text has no room for, which is whether it was strict, labelled or
shared.
-/
import Dialogue.Proofs.Document.Range
import Dialogue.Proofs.Json.Decimal
import Dialogue.Proofs.Json.Text
import Mathlib.Data.List.DropRight

namespace Dialogue

/-! ## What can be written -/

/-- Content whose number, if it is one, is in range. -/
def Scalar.InRange : Scalar → Prop
  | .number n => n.InRange
  | _ => True

/-- A document whose numbers are in range and whose keys are texts. -/
inductive Document.Printable : Document → Prop
  | leaf {l : Leaf} : l.value.InRange → Printable (.leaf l)
  | list {strict : Bool} {ds : List Document} : (∀ d ∈ ds, Printable d) → Printable (.list strict ds)
  | table {strict : Bool} {entries : List (Document × Document)} : (∀ e ∈ entries, ∃ s, e.1 = text s) →
    (∀ e ∈ entries, Printable e.2) → Printable (.table strict entries)
  | labelled {label : String} {d : Document} : Printable d → Printable (.labelled label d)
  | shared {d : Document} : Printable d → Printable (.shared d)

namespace Json

/-! ## What is read -/

/-- The content that the text of a number is read as. -/
def echoNumber : Number → Scalar
  | .integer n => .number (.integer n)
  | .double (.finite s m e) => (NumberText.ofFinite (-5) 15 .double m e).leaf s
  | .single (.finite s m e) => (NumberText.ofFinite (-6) 12 .single m e).leaf s
  | _ => .null

/-- The content that the text of a leaf is read as. -/
def echoScalar : Scalar → Scalar
  | .number n => echoNumber n
  | .minusZero => .number (.integer 0)
  | .unreadable => .null
  | s => s

mutual
/-- The document that the text of a document is read as. -/
def echo : Document → Document
  | .leaf l => .leaf (.strict (echoScalar l.value))
  | .list _ ds => .list true (echoAll ds)
  | .table _ entries => .table true (echoEntries entries)
  | .labelled _ d => echo d
  | .shared d => echo d

/-- The documents that the items of a list are read as. -/
def echoAll : List Document → List Document
  | [] => []
  | d :: rest => echo d :: echoAll rest

/-- The entries that the entries of a table are read as. -/
def echoEntries : List (Document × Document) → List (Document × Document)
  | [] => []
  | (k, d) :: rest => (echo k, echo d) :: echoEntries rest
end

variable {size n level : Nat} {rest s s' : List Char}

/-! ## Blanks -/

theorem skip_newline (level : Nat) (s : List Char) : skip ((newline level).toList ++ s) = skip s := by
  have hblank : ∀ c ∈ (newline level).toList, (c = ' ' || c = '\n' || c = '\t' || c = '\r') = true := by
    intro c hc
    simp only [newline, String.toList_append, String.toList_ofList, List.mem_append, List.mem_replicate] at hc
    rcases hc with hc | ⟨-, rfl⟩
    · obtain rfl : c = '\n' := by simpa using hc
      rfl
    · rfl
  unfold skip
  exact List.dropWhile_append_of_pos hblank

theorem skip_skip (s : List Char) : skip (skip s) = skip s := by
  unfold skip
  exact List.dropWhile_idempotent _ _

theorem value?_of_skip (h : skip s = skip s') : value? size n s = value? size n s' := by
  cases n with
  | zero => rw [value?, value?]
  | succ n => rw [value?, value?, h]

theorem items?_of_skip (h : skip s = skip s') (before : List Document) :
    items? size n before s = items? size n before s' := by
  cases n with
  | zero => rw [items?, items?]
  | succ n => rw [items?, items?, value?_of_skip h]

theorem entries?_of_skip (h : skip s = skip s') (before : List (Document × Document)) :
    entries? size n before s = entries? size n before s' := by
  cases n with
  | zero => rw [entries?, entries?]
  | succ n => rw [entries?, entries?, h]

/-! ## Leaves -/

/-- A digit begins a number and nothing else. -/
theorem value?_digit {c : Char} (hc : c.isDigit = true) (r : List Char) :
    value? size (n + 1) (c :: r) = (number? false (c :: r)).map fun p => (.leaf (.strict p.1), p.2) := by
  have hne : ∀ c' : Char, c'.isDigit = false → c ≠ c' := by
    rintro c' hc' rfl
    rw [hc] at hc'
    cases hc'
  have hskip : skip (c :: r) = c :: r := by
    unfold skip
    refine List.dropWhile_cons_of_neg ?_
    simp [hne ' ' rfl, hne '\n' rfl, hne '\t' rfl, hne '\r' rfl]
  rw [value?, hskip]
  dsimp only
  rw [if_neg (hne _ rfl), if_neg (hne _ rfl), if_neg (hne _ rfl), if_neg (hne _ rfl), if_pos hc]

theorem value?_number {t : NumberText} (ht : t.Valid) (hrest : Ends rest) (negative : Bool) :
    value? size (n + 1) ((if negative then ['-'] else []) ++ t.chars ++ rest) =
      some (.leaf (.strict (t.leaf negative)), rest) := by
  have hnumber := number?_chars ht hrest negative
  cases negative with
  | true =>
    show value? size (n + 1) ('-' :: (t.chars ++ rest)) = _
    rw [value?]
    show (number? true (t.chars ++ rest)).map _ = _
    rw [hnumber]
    rfl
  | false =>
    obtain ⟨c, cs, hwhole⟩ := List.exists_cons_of_ne_nil ht.whole.1
    have hchars : ∃ r, t.chars ++ rest = c :: r := ⟨_, by rw [NumberText.chars, hwhole]; rfl⟩
    obtain ⟨r, hr⟩ := hchars
    have hc : c.isDigit = true := ht.whole.2 c (hwhole ▸ List.mem_cons_self)
    rw [if_neg Bool.false_ne_true, List.nil_append, hr, value?_digit hc, ← hr, hnumber]
    rfl

/-- The parts in which the digits of a natural number are written. -/
def NumberText.ofNat (n : Nat) : NumberText := ⟨Nat.toDigits 10 n, none, none⟩

theorem NumberText.valid_ofNat (n : Nat) : (ofNat n).Valid := by
  refine ⟨areDigits_toDigits n, fun hzero => ?_, nofun, nofun⟩
  rcases Nat.eq_zero_or_pos n with rfl | hpos
  · rfl
  · exact absurd hzero (head?_toDigits hpos)

theorem NumberText.chars_ofNat (n : Nat) : (ofNat n).chars = (toString n).toList := by
  simp [chars, exponentChars, ofNat]

/-- A number in range is read as what its text echoes. -/
theorem value?_numberText {x : Number} (hx : x.InRange) (hrest : Ends rest) :
    value? size (n + 1) ((number x).toList ++ rest) = some (.leaf (.strict (echoNumber x)), rest) := by
  have hnull : value? size (n + 1) ("null".toList ++ rest) = some (.leaf (.strict .null), rest) := by
    rw [value?]
    rfl
  cases x with
  | integer z =>
    obtain ⟨hlow, hhigh⟩ := hx
    cases z with
    | ofNat k =>
      have hread := @value?_number size n rest _ (NumberText.valid_ofNat k) hrest false
      have hleaf : (NumberText.ofNat k).leaf false = .number (.integer k) := numberLeaf_integer (Int.ofNat_le.1 hhigh)
      rw [if_neg Bool.false_ne_true, List.nil_append, NumberText.chars_ofNat, hleaf] at hread
      exact hread
    | negSucc k =>
      have hread := @value?_number size n rest _ (NumberText.valid_ofNat (k + 1)) hrest true
      have hleaf : (NumberText.ofNat (k + 1)).leaf true = .number (.integer (Int.negSucc k)) :=
        numberLeaf_negative (Nat.succ_pos k) (by omega)
      have htext : (number (.integer (Int.negSucc k))).toList = ['-'] ++ (toString (k + 1)).toList :=
        String.toList_append
      rw [if_pos rfl, NumberText.chars_ofNat, hleaf] at hread
      rw [htext]
      exact hread
  | double x =>
    cases x with
    | finite s m e =>
      rw [number, doubleStyle, NumberText.toList_finite]
      exact value?_number NumberText.valid_ofFinite hrest s
    | infinite s => exact hnull
    | nan => exact hnull
  | single x =>
    cases x with
    | finite s m e =>
      rw [number, singleStyle, NumberText.toList_finite]
      exact value?_number NumberText.valid_ofFinite hrest s
    | infinite s => exact hnull
    | nan => exact hnull

/-- A leaf is read as what its text echoes. -/
theorem value?_leaf {l : Leaf} (hl : l.value.InRange) (hrest : Ends rest)
    (hsize : (scalar l.value).toList.length ≤ size) :
    value? size (n + 1) ((scalar l.value).toList ++ rest) = some (.leaf (.strict (echoScalar l.value)), rest) := by
  cases hv : l.value with
  | null => rw [value?]; rfl
  | bool b => cases b <;> rw [value?] <;> rfl
  | number x =>
    rw [hv] at hl
    exact value?_numberText hl hrest
  | minusZero => exact value?_numberText (show (Number.integer 0).InRange from ⟨by decide, by decide⟩) hrest
  | text s =>
    rw [hv] at hsize
    obtain ⟨r, hr, hread⟩ := textFrom?_toList s hsize rest
    rw [scalar, hr, List.cons_append, value?]
    show (textFrom? [] true size (r ++ rest)).map _ = _
    rw [hread]
    rfl
  | unreadable => rw [value?]; rfl

/-! ## Lists and tables -/

theorem echoAll_eq (ds : List Document) : echoAll ds = ds.map echo := by
  induction ds with
  | nil => rfl
  | cons d rest ih => rw [echoAll, ih, List.map_cons]

theorem echoEntries_eq (entries : List (Document × Document)) :
    echoEntries entries = entries.map fun e => (echo e.1, echo e.2) := by
  induction entries with
  | nil => rfl
  | cons e rest ih => rw [echoEntries, ih, List.map_cons]

/-- The text of a document, as part of a text of a given size, is read as its echo. -/
def IsReadBack (size : Nat) (d : Document) : Prop := ∀ (level n : Nat) (rest : List Char), Ends rest →
  (pretty level d).toList.length ≤ size → (pretty level d).toList.length < n →
  value? size n ((pretty level d).toList ++ rest) = some (echo d, rest)

theorem newline_toList (level : Nat) :
    (newline level).toList = '\n' :: List.replicate (2 * level) ' ' := by
  simp [newline]

theorem ends_newline (level : Nat) (rest : List Char) : Ends ((newline level).toList ++ rest) := by
  rw [newline_toList]
  rintro c ⟨⟩
  decide

theorem ends_comma (rest : List Char) : Ends (',' :: rest) := by
  rintro c ⟨⟩
  decide

/-- No item begins with the bracket that closes a list. -/
theorem items?_closed (h : skip s = ']' :: rest) (before : List Document) : items? size n before s = none := by
  have hvalue (n : Nat) : value? size n s = none := by
    cases n with
    | zero => rw [value?]
    | succ n =>
      rw [value?, h]
      rfl
  cases n with
  | zero => rw [items?]
  | succ n => rw [items?, hvalue]

/-- No entry begins with the brace that closes a table. -/
theorem entries?_closed (h : skip s = '\x7d' :: rest) (before : List (Document × Document)) :
    entries? size n before s = none := by
  cases n with
  | zero => rw [entries?]
  | succ n =>
    rw [entries?, h]
    rfl

theorem items?_pretty {ds : List Document} (hne : ds ≠ []) (hds : ∀ d ∈ ds, IsReadBack size d) (outer : Nat)
    (before : List Document) (hsize : (prettyItems level ds).toList.length ≤ size)
    (hn : (prettyItems level ds).toList.length < n) :
    items? size n before ((prettyItems level ds).toList ++ ((newline outer).toList ++ ']' :: rest)) =
      some (.list true (before.reverse ++ ds.map echo), rest) := by
  induction ds generalizing before n with
  | nil => exact absurd rfl hne
  | cons d ds ih =>
    obtain ⟨hd, hds⟩ := List.forall_mem_cons.1 hds
    obtain ⟨n, rfl⟩ : ∃ k, n = k + 1 := ⟨n - 1, by omega⟩
    cases ds with
    | nil =>
      have htext : (prettyItems level [d]).toList = (newline level).toList ++ (pretty level d).toList :=
        String.toList_append
      rw [htext, List.length_append, newline_toList, List.length_cons] at hsize hn
      have hread := hd level n ((newline outer).toList ++ ']' :: rest) (ends_newline outer _) (by omega) (by omega)
      rw [items?, htext, List.append_assoc, value?_of_skip (skip_newline level _), hread]
      dsimp only
      rw [skip_newline]
      simp [skip]
    | cons d' ds =>
      have htext : (prettyItems level (d :: d' :: ds)).toList =
          (newline level).toList ++ ((pretty level d).toList ++ ',' :: (prettyItems level (d' :: ds)).toList) := by
        simp [prettyItems]
      rw [htext] at hsize hn ⊢
      simp only [List.length_append, newline_toList, List.length_cons] at hsize hn
      rw [List.append_assoc, List.append_assoc, List.cons_append, items?, value?_of_skip (skip_newline level _),
        hd level n _ (ends_comma _) (by omega) (by omega)]
      dsimp only
      show items? size n (echo d :: before) _ = _
      rw [ih (by simp) hds _ (by omega) (by omega), List.reverse_cons, List.append_assoc]
      rfl

/-- One entry of a table is read, which is its key, the colon and the document, up to a comma or to the closing
brace. -/
theorem entries?_entry {d : Document} (hd : IsReadBack size d) (key : String) (before : List (Document × Document))
    (hrest : Ends rest) (hkey : (text key).toList.length ≤ size) (hsize : (pretty level d).toList.length ≤ size)
    (hn : (pretty level d).toList.length < n) :
    let s := (newline level).toList ++ ((text key).toList ++ ':' :: ' ' :: ((pretty level d).toList ++ rest))
    (∀ r, skip rest = ',' :: r → entries? size (n + 1) before s = entries? size n ((.text key, echo d) :: before) r) ∧
      ∀ r, skip rest = '\x7d' :: r →
        entries? size (n + 1) before s = some (.table true ((.text key, echo d) :: before).reverse, r) := by
  intro s
  obtain ⟨r, hr, hread⟩ := textFrom?_toList key hkey (':' :: ' ' :: ((pretty level d).toList ++ rest))
  have hskip : skip s = '"' :: (r ++ ':' :: ' ' :: ((pretty level d).toList ++ rest)) := by
    rw [skip_newline, hr]
    rfl
  have hcolon (s : List Char) : skip (':' :: s) = ':' :: s := rfl
  have hblank : skip (' ' :: ((pretty level d).toList ++ rest)) = skip ((pretty level d).toList ++ rest) := rfl
  have hvalue := hd level n rest hrest hsize hn
  rw [← value?_of_skip hblank] at hvalue
  constructor
  · intro r hafter
    rw [entries?]
    simp only [hskip, hread, hcolon, hvalue, hafter]
    rfl
  · intro r hafter
    rw [entries?]
    simp only [hskip, hread, hcolon, hvalue, hafter]
    rfl

theorem entries?_pretty {entries : List (Document × Document)} (hne : entries ≠ [])
    (hkeys : ∀ e ∈ entries, ∃ s, e.1 = .text s) (hentries : ∀ e ∈ entries, IsReadBack size e.2) (outer : Nat)
    (before : List (Document × Document)) (hsize : (prettyEntries level entries).toList.length ≤ size)
    (hn : (prettyEntries level entries).toList.length < n) :
    entries? size n before ((prettyEntries level entries).toList ++ ((newline outer).toList ++ '\x7d' :: rest)) =
      some (.table true (before.reverse ++ entries.map fun e => (echo e.1, echo e.2)), rest) := by
  induction entries generalizing before n with
  | nil => exact absurd rfl hne
  | cons e entries ih =>
    obtain ⟨k, d⟩ := e
    obtain ⟨⟨key, (rfl : k = .text key)⟩, hothers⟩ := List.forall_mem_cons.1 hkeys
    obtain ⟨(hd : IsReadBack size d), hrest⟩ := List.forall_mem_cons.1 hentries
    obtain ⟨n, rfl⟩ : ∃ k, n = k + 1 := ⟨n - 1, by omega⟩
    have hquoted : pretty level (.text key) = text key := rfl
    cases entries with
    | nil =>
      have htext : (prettyEntries level [(.text key, d)]).toList =
          (newline level).toList ++ ((text key).toList ++ ':' :: ' ' :: (pretty level d).toList) := by
        simp [prettyEntries, hquoted]
      rw [htext] at hsize hn ⊢
      simp only [List.length_append, newline_toList, List.length_cons] at hsize hn
      rw [List.append_assoc, List.append_assoc, List.cons_append, List.cons_append,
        (entries?_entry hd key before (ends_newline outer _) (by omega) (by omega) (by omega)).2 rest
          (skip_newline outer _), List.reverse_cons]
      rfl
    | cons e' entries =>
      have htext : (prettyEntries level ((.text key, d) :: e' :: entries)).toList =
          (newline level).toList ++ ((text key).toList ++ ':' :: ' ' ::
            ((pretty level d).toList ++ ',' :: (prettyEntries level (e' :: entries)).toList)) := by
        simp [prettyEntries, hquoted]
      rw [htext] at hsize hn ⊢
      simp only [List.length_append, newline_toList, List.length_cons] at hsize hn
      rw [List.append_assoc, List.append_assoc, List.cons_append, List.cons_append, List.append_assoc,
        List.cons_append, (entries?_entry hd key before (ends_comma _) (by omega) (by omega) (by omega)).1 _ rfl,
        ih (by simp) hothers hrest _ (by omega) (by omega), List.reverse_cons, List.append_assoc]
      rfl

/-- A list is read if its items are. -/
theorem value?_list {found : Document × List Char} (h : items? size n [] s = some found) :
    value? size (n + 1) ('[' :: s) = some found := by
  have hskip : skip ('[' :: s) = '[' :: s := rfl
  rw [value?, hskip]
  dsimp only
  rw [if_neg (by decide), if_pos rfl]
  split
  · rename_i hclosed
    rw [items?_closed hclosed] at h
    cases h
  · rw [items?_of_skip (skip_skip s), h]

/-- A table is read if its entries are. -/
theorem value?_table {found : Document × List Char} (h : entries? size n [] s = some found) :
    value? size (n + 1) ('\x7b' :: s) = some found := by
  have hskip : skip ('\x7b' :: s) = '\x7b' :: s := rfl
  rw [value?, hskip]
  dsimp only
  rw [if_pos rfl]
  split
  · rename_i hclosed
    rw [entries?_closed hclosed] at h
    cases h
  · rw [entries?_of_skip (skip_skip s), h]

/-! ## Documents -/

/-- The text of a document is read as its echo. -/
theorem isReadBack_of_printable {d : Document} (h : d.Printable) (size : Nat) : IsReadBack size d := by
  induction h with
  | leaf hl =>
    intro level n rest hrest hsize hn
    obtain ⟨n, rfl⟩ : ∃ k, n = k + 1 := ⟨n - 1, by omega⟩
    exact value?_leaf hl hrest hsize
  | @list strict ds hds ih =>
    intro level n rest hrest hsize hn
    obtain ⟨n, rfl⟩ : ∃ k, n = k + 1 := ⟨n - 1, by omega⟩
    rw [echo, echoAll_eq]
    cases ds with
    | nil => rw [pretty, value?]; rfl
    | cons d ds =>
      have htext : (pretty level (.list strict (d :: ds))).toList =
          '[' :: ((prettyItems (level + 1) (d :: ds)).toList ++ ((newline level).toList ++ [']'])) := by
        simp [pretty]
      rw [htext, List.length_cons, List.length_append] at hsize hn
      have hitems : items? size n []
          ((prettyItems (level + 1) (d :: ds)).toList ++ ((newline level).toList ++ ']' :: rest)) =
          some (.list true ((d :: ds).map echo), rest) :=
        items?_pretty (List.cons_ne_nil d ds) ih level [] (by omega) (by omega)
      rw [htext, List.cons_append, List.append_assoc, List.append_assoc, List.singleton_append]
      exact value?_list hitems
  | @table strict entries hkeys hentries ih =>
    intro level n rest hrest hsize hn
    obtain ⟨n, rfl⟩ : ∃ k, n = k + 1 := ⟨n - 1, by omega⟩
    rw [echo, echoEntries_eq]
    cases entries with
    | nil => rw [pretty, value?]; rfl
    | cons e entries =>
      have htext : (pretty level (.table strict (e :: entries))).toList =
          '\x7b' :: ((prettyEntries (level + 1) (e :: entries)).toList ++ ((newline level).toList ++ ['\x7d'])) := by
        simp [pretty]
      rw [htext, List.length_cons, List.length_append] at hsize hn
      have hentries : entries? size n []
          ((prettyEntries (level + 1) (e :: entries)).toList ++ ((newline level).toList ++ '\x7d' :: rest)) =
          some (.table true ((e :: entries).map fun e => (echo e.1, echo e.2)), rest) :=
        entries?_pretty (List.cons_ne_nil e entries) hkeys ih level [] (by omega) (by omega)
      rw [htext, List.cons_append, List.append_assoc, List.append_assoc, List.singleton_append]
      exact value?_table hentries
  | labelled h ih => exact ih
  | shared h ih => exact ih

/-- Pretty text is read as the echo of the document, down to the greatest depth that is read. -/
theorem document?_pretty {d : Document} (h : d.Printable) :
    document? (pretty 0 d) = some ((echo d).capped maxDepth) := by
  have hread := isReadBack_of_printable h (pretty 0 d).toList.length 0 ((pretty 0 d).toList.length + 1) []
    nofun (Nat.le_refl _) (Nat.lt_succ_self _)
  rw [List.append_nil] at hread
  unfold document?
  dsimp only
  rw [hread]
  rfl

end Json

end Dialogue
