/-
Dictionaries: finite maps from strings, kept as entries in strictly increasing order of their keys
(by code point). The order makes equal maps equal values, and it is the order in which keys are
written.

`Entries` holds the operations on bare entry lists, which nested values use; `Dictionary` packs the
list with its order.
-/

namespace Dialogue

/-! ## Entry lists -/

namespace Entries

variable {α : Type}

/-- Entries in strictly increasing order of their keys. -/
def Ordered (entries : List (String × α)) : Prop := entries.Pairwise fun a b => a.1 < b.1

/-- The value at a key. -/
def find? (key : String) : List (String × α) → Option α
  | [] => none
  | (k, v) :: rest => if k = key then some v else find? key rest

/-- The entries with a key set to a value: replaced where the key stands, added in order
otherwise. -/
def insert (key : String) (value : α) : List (String × α) → List (String × α)
  | [] => [(key, value)]
  | (k, v) :: rest =>
    if key < k then (key, value) :: (k, v) :: rest
    else if k = key then (key, value) :: rest
    else (k, v) :: insert key value rest

/-- The entries without a key. -/
def erase (key : String) (entries : List (String × α)) : List (String × α) :=
  entries.filter fun e => e.1 ≠ key

/-- The entries of a list in which later values of a key replace earlier ones. -/
def ofList (pairs : List (String × α)) : List (String × α) :=
  pairs.foldl (fun entries p => insert p.1 p.2 entries) []

theorem mem_keys_insert {key : String} {value : α} {entries : List (String × α)} {k : String}
    (h : k ∈ (insert key value entries).map (·.1)) : k = key ∨ k ∈ entries.map (·.1) := by
  induction entries with
  | nil => simpa [insert] using h
  | cons e rest ih =>
    simp only [insert] at h
    split at h
    · simpa using h
    · split at h
      · rename_i hk
        simp only [List.map_cons, List.mem_cons] at h ⊢
        rcases h with h | h
        · exact .inl h
        · exact .inr (.inr h)
      · simp only [List.map_cons, List.mem_cons] at h ⊢
        rcases h with h | h
        · exact .inr (.inl h)
        · rcases ih h with h | h
          · exact .inl h
          · exact .inr (.inr h)

theorem ordered_insert {key : String} {value : α} {entries : List (String × α)}
    (h : Ordered entries) : Ordered (insert key value entries) := by
  induction entries with
  | nil => simp [insert, Ordered]
  | cons e rest ih =>
    obtain ⟨hlt, hrest⟩ := List.pairwise_cons.1 h
    simp only [insert]
    split
    · rename_i hk
      refine List.pairwise_cons.2 ⟨?_, h⟩
      intro b hb
      rcases List.mem_cons.1 hb with rfl | hb
      · exact hk
      · exact String.lt_trans hk (hlt b hb)
    · split
      · rename_i hk
        exact List.pairwise_cons.2 ⟨fun b hb => hk ▸ hlt b hb, hrest⟩
      · rename_i hk hne
        refine List.pairwise_cons.2 ⟨?_, ih hrest⟩
        intro b hb
        rcases mem_keys_insert (List.mem_map.2 ⟨b, hb, rfl⟩) with hb' | hb'
        · rw [hb']
          rcases Std.lt_trichotomy e.1 key with h | h | h
          · exact h
          · exact absurd h hne
          · exact absurd h hk
        · obtain ⟨c, hc, hcb⟩ := List.mem_map.1 hb'
          exact hcb ▸ hlt c hc

theorem ordered_erase {key : String} {entries : List (String × α)} (h : Ordered entries) :
    Ordered (erase key entries) := List.Pairwise.filter _ h

theorem ordered_ofList (pairs : List (String × α)) : Ordered (ofList pairs) := by
  suffices ∀ entries : List (String × α), Ordered entries →
      Ordered (pairs.foldl (fun entries p => insert p.1 p.2 entries) entries) from
    this [] List.Pairwise.nil
  induction pairs with
  | nil => intro entries h; exact h
  | cons p rest ih => intro entries h; exact ih _ (ordered_insert h)

@[simp] theorem find?_nil (key : String) : find? key ([] : List (String × α)) = none := rfl

theorem find?_insert_self (key : String) (value : α) (entries : List (String × α)) :
    find? key (insert key value entries) = some value := by
  induction entries with
  | nil => simp [insert, find?]
  | cons e rest ih =>
    simp only [insert]
    split
    · simp [find?]
    · split
      · simp [find?]
      · rename_i hne
        simp [find?, hne, ih]

theorem find?_insert_of_ne {key k : String} (value : α) (entries : List (String × α))
    (h : k ≠ key) : find? k (insert key value entries) = find? k entries := by
  induction entries with
  | nil => simp [insert, find?, Ne.symm h]
  | cons e rest ih =>
    simp only [insert]
    split
    · simp [find?, Ne.symm h]
    · split
      · rename_i he
        simp [find?, he, Ne.symm h]
      · simp [find?, ih]

theorem find?_map {β : Type} (f : α → β) (key : String) (entries : List (String × α)) :
    find? key (entries.map fun e => (e.1, f e.2)) = (find? key entries).map f := by
  induction entries with
  | nil => rfl
  | cons e rest ih =>
    simp only [List.map_cons, find?]
    split
    · rfl
    · exact ih

@[simp] theorem find?_append (key : String) (first last : List (String × α)) :
    find? key (first ++ last) = (find? key first).or (find? key last) := by
  induction first with
  | nil => rfl
  | cons e rest ih =>
    simp only [List.cons_append, find?]
    split
    · rfl
    · exact ih

theorem find?_eq_none_iff {key : String} {entries : List (String × α)} :
    find? key entries = none ↔ key ∉ entries.map (·.1) := by
  induction entries with
  | nil => simp
  | cons e rest ih =>
    rw [List.map_cons, List.mem_cons, not_or, ← ih, find?]
    split
    · rename_i h
      simp [h]
    · rename_i h
      simp [Ne.symm h]

theorem find?_erase_self (key : String) (entries : List (String × α)) :
    find? key (erase key entries) = none := by
  induction entries with
  | nil => rfl
  | cons e rest ih =>
    unfold erase at ih ⊢
    by_cases h : e.1 = key
    · simpa [h] using ih
    · simpa [h, find?] using ih

theorem find?_erase_of_ne {key k : String} (entries : List (String × α)) (h : k ≠ key) :
    find? k (erase key entries) = find? k entries := by
  induction entries with
  | nil => rfl
  | cons e rest ih =>
    unfold erase at ih ⊢
    by_cases he : e.1 = key
    · have : ¬ key = k := fun hk => h hk.symm
      simpa [he, find?, this] using ih
    · by_cases hk : e.1 = k
      · simp [find?, hk, h]
      · simpa [he, find?, hk] using ih

end Entries

/-! ## Dictionaries -/

/-- A finite map from strings, its entries in increasing order of their keys. -/
structure Dictionary (α : Type) where
  entries : List (String × α)
  ordered : Entries.Ordered entries
deriving DecidableEq

namespace Dictionary

variable {α : Type}

/-- The dictionary without entries. -/
def empty : Dictionary α := ⟨[], List.Pairwise.nil⟩

instance : Inhabited (Dictionary α) := ⟨empty⟩

/-- Two dictionaries are equal when their entries are. -/
instance [BEq α] : BEq (Dictionary α) := ⟨fun a b => a.entries == b.entries⟩

/-- The dictionary of a list of pairs, a later value of a key replacing an earlier one. -/
def ofList (pairs : List (String × α)) : Dictionary α :=
  ⟨Entries.ofList pairs, Entries.ordered_ofList pairs⟩

/-- The value at a key. -/
def get? (d : Dictionary α) (key : String) : Option α := Entries.find? key d.entries

/-- Whether a key has a value. -/
def contains (d : Dictionary α) (key : String) : Bool := (d.get? key).isSome

/-- The dictionary with a key set to a value. -/
def insert (d : Dictionary α) (key : String) (value : α) : Dictionary α :=
  ⟨Entries.insert key value d.entries, Entries.ordered_insert d.ordered⟩

/-- The dictionary without a key. -/
def erase (d : Dictionary α) (key : String) : Dictionary α :=
  ⟨Entries.erase key d.entries, Entries.ordered_erase d.ordered⟩

/-- The keys in increasing order. -/
def keys (d : Dictionary α) : List String := d.entries.map (·.1)

/-- The number of keys. -/
def size (d : Dictionary α) : Nat := d.entries.length

/-- Whether there is no key. -/
def isEmpty (d : Dictionary α) : Bool := d.entries.isEmpty

/-- The dictionary with every value replaced by its image. -/
def map {β : Type} (f : α → β) (d : Dictionary α) : Dictionary β :=
  ⟨d.entries.map fun e => (e.1, f e.2), by
    have := d.ordered
    unfold Entries.Ordered at this ⊢
    rw [List.pairwise_map]
    exact this⟩

@[simp] theorem get?_empty (key : String) : (empty : Dictionary α).get? key = none := rfl

@[simp] theorem get?_insert_self (d : Dictionary α) (key : String) (value : α) :
    (d.insert key value).get? key = some value := Entries.find?_insert_self key value d.entries

theorem get?_insert_of_ne (d : Dictionary α) {key k : String} (value : α) (h : k ≠ key) :
    (d.insert key value).get? k = d.get? k := Entries.find?_insert_of_ne value d.entries h

@[simp] theorem get?_erase_self (d : Dictionary α) (key : String) :
    (d.erase key).get? key = none := Entries.find?_erase_self key d.entries

theorem get?_erase_of_ne (d : Dictionary α) {key k : String} (h : k ≠ key) :
    (d.erase key).get? k = d.get? k := Entries.find?_erase_of_ne d.entries h

theorem get?_map {β : Type} (f : α → β) (d : Dictionary α) (key : String) :
    (d.map f).get? key = (d.get? key).map f := Entries.find?_map f key d.entries

theorem keys_map {β : Type} (f : α → β) (d : Dictionary α) : (d.map f).keys = d.keys := List.map_map

end Dictionary

end Dialogue
