/-
Readers that undo writers. A list, a dictionary and a record are read as they were written if that is so for their
parts, a field that was left out has the default for which it was left out, and a variant is told from the record
of its other fields; a well-formed value of any depth is read from its document.

Documents without shared parts are read without following references, so every law here is an equation with `pure`,
and the laws of the parts make up those of the whole by rewriting.
-/
import Dialogue.Proofs.Document.Reread

namespace Dialogue

namespace Document

variable {digits : Binary → Number}

/-! ## Leaves -/

@[simp] theorem content_items (ds : List Document) : content (items ds) = pure (items ds) := rfl

@[simp] theorem content_record (fields : List (String × Document)) :
    content (record fields) = pure (record fields) := rfl

@[simp] theorem text?_text (s : String) : text? (text s) = pure s := rfl

@[simp] theorem bool?_bool (b : Bool) : bool? (bool b) = pure b := rfl

theorem natural?_nat {limit n : Nat} (h : n ≤ limit) : natural? limit (nat n) = pure n := by
  have hn : (Leaf.strict (.number (.integer n))).natural? = some n := by
    simp [Leaf.natural?, Leaf.isWordOf, Leaf.strict, Scalar.number?]
  show Read.found ((Leaf.strict (.number (.integer n))).natural?.filter (· ≤ limit)) = pure n
  rw [hn]
  simp [Option.filter, h]
  rfl

@[simp] theorem double?_number (n : Number) : double? (number n) = pure n.toDouble := rfl

@[simp] theorem single?_number (n : Number) : single? (number n) = pure n.toSingle := rfl

/-- Whether a document is neither null nor a reference. -/
def isPresent : Document → Bool
  | .leaf l => !l.isBrokenNull && !l.isNull
  | .shared _ => false
  | _ => true

theorem nullable?_of_isPresent {α : Type} {read : Document → Read α} {d : Document} {a : α}
    (hd : d.isPresent = true) (hr : read d = pure a) : nullable? read d = pure (some a) := by
  have hfollow : d.follow = pure d := by cases d <;> first | rfl | cases hd
  have hleaf : d.isLeaf Leaf.isBrokenNull = false ∧ d.isLeaf Leaf.isNull = false := by
    cases d <;> simp_all [isLeaf, isPresent]
  simp [nullable?, hfollow, hleaf, hr]

theorem nullable?_textOrNull (s : Option String) : nullable? text? (textOrNull s) = pure s := by
  cases s <;> rfl

/-- What is made of a part that is read. -/
theorem made_of {α β : Type} {read : Read α} {a : α} (h : read = pure a) (make : α → β) :
    (do return make (← read)) = (pure (make a) : Read β) := by
  rw [h, pure_bind]

/-! ## Collections -/

theorem mapM_same {α : Type} {read : α → Read α} {as : List α} (h : ∀ a ∈ as, read a = pure a) :
    as.mapM read = pure as := by
  induction as with
  | nil => rfl
  | cons a rest ih =>
    obtain ⟨ha, hrest⟩ := List.forall_mem_cons.1 h
    rw [List.mapM_cons, ha, pure_bind, ih hrest, pure_bind]

theorem mapM_read {α β : Type} {write : α → β} {read : β → Read α} {as : List α}
    (h : ∀ a ∈ as, read (write a) = pure a) : (as.map write).mapM read = pure as := by
  rw [List.mapM_map]
  exact mapM_same h

theorem exists_mapM {α β : Type} {read : α → Read β} {as : List α} (h : ∀ a ∈ as, ∃ b, read a = pure b) :
    ∃ bs, as.mapM read = pure bs := by
  induction as with
  | nil => exact ⟨[], rfl⟩
  | cons a rest ih =>
    obtain ⟨⟨b, hb⟩, hrest⟩ := List.forall_mem_cons.1 h
    obtain ⟨bs, hbs⟩ := ih hrest
    exact ⟨b :: bs, by rw [List.mapM_cons, hb, pure_bind, hbs, pure_bind]⟩

theorem listOf?_eq {α : Type} (read : Document → Read α) (ds : List Document) :
    listOf? read (items ds) = ds.mapM read := by
  unfold listOf?
  rw [content_items, pure_bind]
  rfl

/-- Reading a list undoes writing it if that is so for the items. -/
theorem listOf?_items {α : Type} {write : α → Document} {read : Document → Read α} {as : List α}
    (h : ∀ a ∈ as, read (write a) = pure a) : listOf? read (items (as.map write)) = pure as :=
  (listOf?_eq read _).trans (mapM_read h)

theorem mapM_fields {α : Type} {write : α → Document} {read : Document → Read α}
    {fields : List (String × α)} (h : ∀ f ∈ fields, read (write f.2) = pure f.2) :
    (fields.map fun f => (text f.1, write f.2)).mapM (fun (e : Document × Document) => do
      let key ← e.1.text?
      let v ← read e.2
      return (key, v)) = pure fields := by
  refine mapM_read fun f hf => ?_
  rw [text?_text, pure_bind, h f hf, pure_bind]

/-- Reading a dictionary undoes writing it if that is so for the values. -/
theorem dictionaryOf?_record {α : Type} {write : α → Document} {read : Document → Read α}
    {dictionary : Dictionary α} (h : ∀ e ∈ dictionary.entries, read (write e.2) = pure e.2) :
    dictionaryOf? read (record (dictionary.entries.map fun e => (e.1, write e.2)))
      = pure dictionary := by
  unfold dictionaryOf?
  rw [content_record, pure_bind]
  simp only [record, List.map_map]
  show ((dictionary.entries.map fun e => (text e.1, write e.2)).mapM _ >>= _) = _
  rw [mapM_fields h, pure_bind, Dictionary.ofList_entries]

/-! ## Records -/

@[simp] theorem find?_cons {α : Type} (key name : String) (a : α) (rest : List (String × α)) :
    Entries.find? key ((name, a) :: rest) = if name = key then some a else Entries.find? key rest :=
  rfl

@[simp] theorem find?_given (name key : String) (d : Option Document) :
    Entries.find? key (given name d) = if name = key then d else none := by
  cases d with
  | none => simp [given]
  | some d => simp [given]

@[simp] theorem find?_listed (name key : String) (ds : List Document) :
    Entries.find? key (listed name ds) =
      if name = key then (if ds.isEmpty then none else some (items ds)) else none := by
  cases ds with
  | nil => simp [listed]
  | cons d rest => simp [listed]

theorem keys_given (name : String) (d : Option Document) :
    ((given name d).map (·.1)).Sublist [name] := by
  cases d with
  | none => exact List.nil_sublist _
  | some d => exact List.Sublist.refl _

theorem keys_listed (name : String) (ds : List Document) :
    ((listed name ds).map (·.1)).Sublist [name] := by
  cases ds with
  | nil => exact List.nil_sublist _
  | cons d rest => exact List.Sublist.refl _

@[simp] theorem keys_rereadFields (fields : List (String × Document)) :
    (rereadFields digits fields).map (·.1) = fields.map (·.1) := by
  simp [rereadFields]

theorem knownFields?_fields {names : List String} {fields : List (String × Document)}
    (hknown : ∀ f ∈ fields, f.1 ∈ names) (hnodup : (fields.map (·.1)).Nodup) :
    knownFields? names (fields.map fun f => (text f.1, f.2)) = pure fields := by
  induction fields with
  | nil => rfl
  | cons f rest ih =>
    obtain ⟨hf, hrest⟩ := List.forall_mem_cons.1 hknown
    obtain ⟨hnot, hnodup⟩ := List.nodup_cons.1 hnodup
    have hname : fieldName? names (text f.1) = pure (some f.1) := by
      show (pure (if f.1 ∈ names then some f.1 else none) : Read (Option String)) = _
      rw [if_pos hf]
    rw [List.map_cons, knownFields?, hname, pure_bind, ih hrest hnodup, pure_bind]
    simp [Entries.find?_eq_none_iff.2 hnot]

/-- A record is read with the fields that it was written with, if they are among the known ones and in their
order. -/
theorem record?_record {names : List String} {fields : List (String × Document)}
    (hnames : names.Nodup) (hkeys : (fields.map (·.1)).Sublist names) :
    record? names (record fields) = pure fields := by
  unfold record?
  rw [content_record, pure_bind]
  refine knownFields?_fields ?_ (hkeys.nodup hnames)
  intro f hf
  exact hkeys.subset (List.mem_map_of_mem hf)

theorem record?_rereadFields {names : List String} {fields : List (String × Document)}
    (hnames : names.Nodup) (hkeys : (fields.map (·.1)).Sublist names) :
    record? names (record (rereadFields digits fields)) = pure (rereadFields digits fields) := by
  refine record?_record hnames ?_
  rw [keys_rereadFields]
  exact hkeys

theorem record?_reread {names : List String} {fields : List (String × Document)}
    (hnames : names.Nodup) (hkeys : (fields.map (·.1)).Sublist names) :
    record? names (reread digits (record fields)) = pure (rereadFields digits fields) := by
  rw [reread_record]
  exact record?_rereadFields hnames hkeys

section

variable {α : Type} {fields : List (String × Document)} {name : String}
  {read : Document → Read α} {a : α}

theorem required?_eq {d : Document} (hf : Entries.find? name fields = some d) (hr : read d = pure a) :
    required? fields name read = pure a := by
  unfold required?
  rw [hf]
  exact hr

theorem optional?_of_some {d : Document} (default : α) (hf : Entries.find? name fields = some d) :
    optional? fields name default read = read d := by
  unfold optional?
  rw [hf]

theorem optional?_eq {d : Document} (default : α) (hf : Entries.find? name fields = some d)
    (hr : read d = pure a) : optional? fields name default read = pure a :=
  (optional?_of_some default hf).trans hr

/-- A field that is left out when its default applies. -/
theorem optional?_default {default : α} (hf : Entries.find? name fields = none) (ha : a = default) :
    optional? fields name default read = pure a := by
  unfold optional?
  rw [hf, ha]

/-- A field that is left out when it is missing. -/
theorem optional?_given {write : α → Document} {o : Option α}
    (hf : Entries.find? name fields = o.map write)
    (hr : ∀ a ∈ o, (write a).isPresent = true ∧ read (write a) = pure a) :
    optional? fields name none (nullable? read) = pure o := by
  unfold optional?
  rw [hf]
  cases o with
  | none => rfl
  | some a => exact nullable?_of_isPresent (hr a rfl).1 (hr a rfl).2

/-- A field that is left out when its list is empty. -/
theorem optional?_listed {write : α → Document} {as : List α}
    (hf : Entries.find? name fields =
      if (as.map write).isEmpty then none else some (items (as.map write)))
    (hr : ∀ a ∈ as, read (write a) = pure a) :
    optional? fields name [] (listOf? read) = pure as := by
  unfold optional?
  rw [hf]
  cases as with
  | nil => rfl
  | cons a rest => exact listOf?_items hr

end

/-! ## Variants -/

theorem splitKey_fields {name : String} {fields : List (String × Document)}
    (hname : name ∉ fields.map (·.1)) :
    splitKey name ((rereadFields digits fields).map fun f => (text f.1, f.2)) =
      pure ([], (rereadFields digits fields).map fun f => (text f.1, f.2)) := by
  induction fields with
  | nil => rfl
  | cons f rest ih =>
    rw [List.map_cons, List.mem_cons, not_or] at hname
    have hkey : settle (text f.1) = pure (text f.1) := rfl
    have htext : isText name (text f.1) = false := by
      simpa [isText, isLeaf, text, Leaf.strict] using Ne.symm hname.1
    obtain ⟨key, d⟩ := f
    simp only [rereadFields_cons, List.map_cons, splitKey, hkey, pure_bind, htext,
      Bool.false_eq_true, if_false, settle_reread, ih hname.2]

/-- A variant is read with its name and the record of its other fields. -/
theorem variant?_reread {tag name : String} {fields : List (String × Document)}
    (htag : tag ∉ fields.map (·.1)) :
    variant? tag (reread digits (record ((tag, text name) :: fields))) =
      pure (name, record (rereadFields digits fields)) := by
  have hfollow (fields : List (String × Document)) : follow (record fields) = pure (record fields) := rfl
  have hkey : settle (text tag) = pure (text tag) := rfl
  have htext : isText tag (text tag) = true := by simp [isText, isLeaf, text, Leaf.strict]
  unfold variant?
  rw [reread_record, rereadFields_cons, hfollow, pure_bind]
  -- the tag is split off, and what is behind it has no other key of that name
  simp only [record, List.map_cons, splitKey, hkey, pure_bind, htext, if_true,
    splitKey_fields htag, reread_text, text?_text]

/-! ## Values -/

theorem values?_eq (ds : List Document) : values? ds = ds.mapM value? := by
  induction ds with
  | nil => rfl
  | cons d rest ih => rw [values?, ih, List.mapM_cons]

theorem fields?_eq (entries : List (Document × Document)) :
    fields? entries = entries.mapM fun (e : Document × Document) => do
      let key ← e.1.text?
      let v ← value? e.2
      return (key, v) := by
  induction entries with
  | nil => rfl
  | cons e rest ih =>
    rw [fields?, ih, List.mapM_cons]
    simp only [bind_assoc, pure_bind]

/-- Reading undoes writing on well-formed values. -/
theorem value?_ofValue {v : Value} (h : v.WellFormed) : value? (ofValue v) = pure v := by
  induction h with
  | null => rfl
  | bool => rfl
  | integer => rfl
  | double hx =>
    show Read.found (some (if _ then _ else _)) = _
    rw [if_pos hx]
    rfl
  | text => rfl
  | list hvs ih =>
    rw [ofValue, value?, values?_eq, ofValues_eq, mapM_read ih, pure_bind]
  | object ho hf ih =>
    -- the fields are in order, so putting them in order again changes nothing
    rw [ofValue, value?, fields?_eq, ofFields_eq, mapM_fields ih, pure_bind, Value.ofFields,
      Entries.ofList_of_ordered ho]

end Document

end Dialogue
