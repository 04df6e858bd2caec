/-
Templates inside values. To interpolate a value is to interpolate the texts in it, each on its own, and to leave all
else: the same steps lead into it, its lists are as long and its objects have the same keys in the same order, even
where a key reads like a placeholder, and a text stays a text whatever the values are that are put in. So a value
with no placeholder that has a value stays as it is.

A step into a value takes a list or an object apart and does not look at texts, so steps and interpolation can change
places (`follow?_interpolateValue`), and all is said by what interpolation does to the value that steps lead to.
-/
import Mathlib.Data.List.Basic
import Dialogue.Proofs.Template.Cut
import Dialogue.Proofs.Variables.Navigation

namespace Dialogue

/-! ## Places -/

theorem interpolateItems_eq (vars : Variables) (items : List Value) :
    interpolateItems vars items = items.map (interpolateValue vars) := by
  induction items with
  | nil => rfl
  | cons v rest ih => rw [interpolateItems, ih, List.map_cons]

theorem interpolateFields_eq (vars : Variables) (fields : List (String × Value)) :
    interpolateFields vars fields = fields.map fun f => (f.1, interpolateValue vars f.2) := by
  induction fields with
  | nil => rfl
  | cons f rest ih => rw [interpolateFields, ih, List.map_cons]

theorem step?_interpolateValue (vars : Variables) (v : Value) (s : Step) :
    (interpolateValue vars v).step? s = (v.step? s).map (interpolateValue vars) := by
  cases s with
  | field key =>
    cases v with
    | object fields =>
      show Entries.find? key (interpolateFields vars fields) = _
      rw [interpolateFields_eq, Entries.find?_map]
      rfl
    | _ => rfl
  | item index =>
    cases v with
    | list items =>
      show (interpolateItems vars items)[index]? = _
      rw [interpolateItems_eq, List.getElem?_map]
      rfl
    | _ => rfl

/-- What steps lead to in an interpolated value is what they lead to in the value, interpolated. -/
theorem follow?_interpolateValue (vars : Variables) (v : Value) (steps : List Step) :
    (interpolateValue vars v).follow? steps = (v.follow? steps).map (interpolateValue vars) := by
  induction steps generalizing v with
  | nil => rfl
  | cons s rest ih =>
    rw [Value.follow?, Value.follow?, step?_interpolateValue]
    cases v.step? s with
    | none => rfl
    | some w => exact ih w

theorem leads_interpolateValue_iff {vars : Variables} {v w : Value} {steps : List Step} :
    (interpolateValue vars v).Leads steps w ↔ ∃ u, v.Leads steps u ∧ interpolateValue vars u = w := by
  simp only [← Value.follow?_eq_some_iff, follow?_interpolateValue, Option.map_eq_some_iff]

/-- What becomes of a value, and not of what is in it: a text is interpolated, a list keeps its length and an object
its keys, and any other value stays. -/
inductive Value.Becomes (vars : Variables) : Value → Value → Prop
  | null : Becomes vars .null .null
  | bool (b : Bool) : Becomes vars (.bool b) (.bool b)
  | number (n : Number) : Becomes vars (.number n) (.number n)
  | text (s : String) : Becomes vars (.text s) (.text (interpolate vars s))
  | list {items others : List Value} (length : others.length = items.length) :
    Becomes vars (.list items) (.list others)
  | object {fields others : List (String × Value)} (keys : others.map (·.1) = fields.map (·.1)) :
    Becomes vars (.object fields) (.object others)

theorem Value.becomes_interpolateValue (vars : Variables) (v : Value) : v.Becomes vars (interpolateValue vars v) := by
  cases v with
  | null => exact .null
  | bool b => exact .bool b
  | number n => exact .number n
  | text s => exact .text s
  | list items => exact .list (by rw [interpolateItems_eq, List.length_map])
  | object fields =>
    refine .object ?_
    rw [interpolateFields_eq, List.map_map]
    rfl

/-! ## Texts -/

/-- A text is among the leaves of a value. -/
inductive Value.HasText (s : String) : Value → Prop
  | here : HasText s (.text s)
  | item {items : List Value} {v : Value} (mem : v ∈ items) (h : HasText s v) : HasText s (.list items)
  | field {fields : List (String × Value)} {f : String × Value} (mem : f ∈ fields) (h : HasText s f.2) :
    HasText s (.object fields)

theorem Cut.filled_of_unresolved {cut : Cut} {vars : Variables} (h : ∀ name ∈ cut.names, vars.lookup name = none) :
    cut.filled vars = cut.written := by
  have hparts : ∀ part ∈ cut.parts, Cut.replacement vars part.1 = part.1.written := by
    intro part hpart
    have hname := h _ (List.mem_map.2 ⟨part, hpart, rfl⟩)
    unfold Cut.replacement Variables.lookupText
    rw [hname]
    rfl
  unfold Cut.filled Cut.written Cut.writtenParts
  rw [List.flatMap_congr fun part hpart => by rw [hparts part hpart]]

/-- A template without a placeholder that has a value stays as it is written. -/
theorem Template.interpolate_of_unresolved {vars : Variables} {template : String}
    (h : ∀ name ∈ Template.names template, vars.lookup name = none) : interpolate vars template = template := by
  have hcut := Cut.of_ofPieces template.toList
  rw [hcut.names_eq] at h
  rw [hcut.interpolate_eq, Cut.filled_of_unresolved h, hcut.written_eq, String.ofList_toList]

mutual
/-- A value of which interpolation leaves the texts as they are is left as it is. -/
theorem interpolateValue_of_texts {vars : Variables} :
    ∀ v : Value, (∀ s, v.HasText s → interpolate vars s = s) → interpolateValue vars v = v
  | .null, _ => rfl
  | .bool _, _ => rfl
  | .number _, _ => rfl
  | .text s, h => congrArg Value.text (h s .here)
  | .list items, h =>
    congrArg Value.list (interpolateItems_of_texts items fun _ hv s hs => h s (.item hv hs))
  | .object fields, h =>
    congrArg Value.object (interpolateFields_of_texts fields fun _ hf s hs => h s (.field hf hs))

theorem interpolateItems_of_texts {vars : Variables} :
    ∀ items : List Value, (∀ v ∈ items, ∀ s, v.HasText s → interpolate vars s = s) →
      interpolateItems vars items = items
  | [], _ => rfl
  | v :: rest, h => by
    obtain ⟨hv, hrest⟩ := List.forall_mem_cons.1 h
    rw [interpolateItems, interpolateValue_of_texts v hv, interpolateItems_of_texts rest hrest]

theorem interpolateFields_of_texts {vars : Variables} :
    ∀ fields : List (String × Value), (∀ f ∈ fields, ∀ s, f.2.HasText s → interpolate vars s = s) →
      interpolateFields vars fields = fields
  | [], _ => rfl
  | (key, v) :: rest, h => by
    obtain ⟨hv, hrest⟩ := List.forall_mem_cons.1 h
    rw [interpolateFields, interpolateValue_of_texts v hv, interpolateFields_of_texts rest hrest]
end

/-- Interpolation keeps the shape of a value: the same steps lead into it, and what they lead to is the same but for
texts, which are interpolated, a list keeping its length and an object its keys. A value stays as it is if no
placeholder in a text of it has a value. -/
theorem interpolateValue_keeps_shape (vars : Variables) (d : Value) :
    (∀ steps, (∃ v, d.Leads steps v) ↔ ∃ w, (interpolateValue vars d).Leads steps w) ∧
    (∀ steps v w, d.Leads steps v → (interpolateValue vars d).Leads steps w → v.Becomes vars w) ∧
    ((∀ s, d.HasText s → ∀ name ∈ Template.names s, vars.lookup name = none) → interpolateValue vars d = d) := by
  refine ⟨fun steps => ?_, fun steps v w hv hw => ?_, fun h => ?_⟩
  · simp only [leads_interpolateValue_iff]
    constructor
    · rintro ⟨v, hv⟩
      exact ⟨_, v, hv, rfl⟩
    · rintro ⟨-, v, hv, -⟩
      exact ⟨v, hv⟩
  · obtain ⟨u, hu, rfl⟩ := leads_interpolateValue_iff.1 hw
    rw [← Value.follow?_eq_some_iff] at hv hu
    obtain rfl : v = u := Option.some.inj (hv.symm.trans hu)
    exact v.becomes_interpolateValue vars
  · exact interpolateValue_of_texts d fun s hs => Template.interpolate_of_unresolved (h s hs)

/-- A key that reads like a placeholder stays, and the text of a list is put into a text. -/
example : (interpolateValue (.ofList [("n", .list [.bool true])])
      (.object [("\x7b\x7bn\x7d\x7d", .text "n: \x7b\x7bn\x7d\x7d")])).display =
    "\x7b\"\x7b\x7bn\x7d\x7d\":\"n: [true]\"\x7d" := by
  decide +kernel

end Dialogue
