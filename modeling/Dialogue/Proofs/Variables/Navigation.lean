/-
What a path leads to. The value at a variable and the steps from it are related to the value that the steps lead to,
through the fields of objects and the items of lists, and a value to the steps that do not apply to it. A read by
the text of a path finds what the steps lead to from the value of the variable, and nothing where there is no such
variable or the first step that does not apply is met.
-/
import Dialogue.Proofs.Variables.Lookup

namespace Dialogue

/-! ## What steps lead to -/

/-- The second value is what steps from the first one lead to, through the fields of objects and the items of
lists. -/
inductive Value.Leads : Value → List Step → Value → Prop
  | here (v : Value) : Leads v [] v
  | field {fields : List (String × Value)} {key : String} {v w : Value} {rest : List Step}
      (found : Entries.find? key fields = some v) (onward : Leads v rest w) :
      Leads (.object fields) (.field key :: rest) w
  | item {items : List Value} {index : Nat} {v w : Value} {rest : List Step} (found : items[index]? = some v)
      (onward : Leads v rest w) : Leads (.list items) (.item index :: rest) w

/-- A step does not apply to a value: the key is missing, the index is out of range, or the value is no object or
no list. -/
inductive Value.Refuses : Value → Step → Prop
  | missing {fields : List (String × Value)} {key : String} (h : key ∉ fields.map (·.1)) :
      Refuses (.object fields) (.field key)
  | outOfRange {items : List Value} {index : Nat} (h : items.length ≤ index) : Refuses (.list items) (.item index)
  | noObject {v : Value} (h : ∀ fields, v ≠ .object fields) (key : String) : Refuses v (.field key)
  | noList {v : Value} (h : ∀ items, v ≠ .list items) (index : Nat) : Refuses v (.item index)

namespace Value

theorem step?_eq_none_iff {v : Value} {s : Step} : v.step? s = none ↔ v.Refuses s := by
  constructor
  · intro h
    cases s with
    | field key =>
      by_cases hv : ∃ fields, v = .object fields
      · obtain ⟨fields, rfl⟩ := hv
        exact .missing (Entries.find?_eq_none_iff.1 h)
      · exact .noObject (fun fields he => hv ⟨fields, he⟩) key
    | item index =>
      by_cases hv : ∃ items, v = .list items
      · obtain ⟨items, rfl⟩ := hv
        exact .outOfRange (List.getElem?_eq_none_iff.1 h)
      · exact .noList (fun items he => hv ⟨items, he⟩) index
  · intro h
    cases h with
    | missing h => exact Entries.find?_eq_none_iff.2 h
    | outOfRange h => exact List.getElem?_eq_none h
    | noObject h key =>
      cases v with
      | object fields => exact absurd rfl (h fields)
      | _ => rfl
    | noList h index =>
      cases v with
      | list items => exact absurd rfl (h items)
      | _ => rfl

theorem leads_nil_iff {v w : Value} : v.Leads [] w ↔ v = w := by
  constructor
  · intro h
    cases h
    rfl
  · rintro rfl
    exact .here v

theorem leads_cons_iff {v w : Value} {s : Step} {rest : List Step} :
    v.Leads (s :: rest) w ↔ ∃ u, v.step? s = some u ∧ u.Leads rest w := by
  constructor
  · intro h
    cases h with
    | field found onward => exact ⟨_, found, onward⟩
    | item found onward => exact ⟨_, found, onward⟩
  · rintro ⟨u, hu, h⟩
    cases s with
    | field key =>
      cases v with
      | object fields => exact .field hu h
      | _ => cases hu
    | item index =>
      cases v with
      | list items => exact .item hu h
      | _ => cases hu

theorem follow?_eq_some_iff {v w : Value} {steps : List Step} : v.follow? steps = some w ↔ v.Leads steps w := by
  induction steps generalizing v with
  | nil => rw [leads_nil_iff, follow?, Option.some.injEq]
  | cons s rest ih =>
    rw [leads_cons_iff, follow?, Option.bind_eq_some_iff]
    simp only [ih]

/-- Nothing is found exactly when one of the steps does not apply to the value that those in front of it lead
to. -/
theorem follow?_eq_none_iff {v : Value} {steps : List Step} : v.follow? steps = none ↔
    ∃ before s after w, steps = before ++ s :: after ∧ v.Leads before w ∧ w.Refuses s := by
  induction steps generalizing v with
  | nil => simp [follow?]
  | cons s rest ih =>
    rw [follow?, Option.bind_eq_none_iff]
    constructor
    · intro h
      cases hs : v.step? s with
      | none => exact ⟨[], s, rest, v, rfl, .here v, step?_eq_none_iff.1 hs⟩
      | some u =>
        obtain ⟨before, t, after, w, rfl, hw, ht⟩ := ih.1 (h u hs)
        exact ⟨s :: before, t, after, w, rfl, leads_cons_iff.2 ⟨u, hs, hw⟩, ht⟩
    · rintro ⟨before, t, after, w, heq, hw, ht⟩ u hu
      cases before with
      | nil =>
        obtain ⟨rfl, rfl⟩ := List.cons.inj heq
        rw [← leads_nil_iff.1 hw, ← step?_eq_none_iff, hu] at ht
        cases ht
      | cons t' before =>
        obtain ⟨rfl, rfl⟩ := List.cons.inj heq
        obtain ⟨u', hu', hw⟩ := leads_cons_iff.1 hw
        rw [hu, Option.some.injEq] at hu'
        exact ih.2 ⟨before, t, after, w, rfl, hu' ▸ hw, ht⟩

end Value

/-! ## Reading variables -/

namespace Variables

/-- A read by the text of a plain path, if trimming leaves the text as it is and no variable has the whole text for
its name, goes through the value of the variable at the base step by step: it finds what the steps lead to, and
nothing exactly when there is no such variable or one of the steps does not apply, its key missing, its index out
of range, or the value it has come to no object or no list. -/
theorem lookup_path {vars : Variables} {p : Path} (hp : p.IsPlain) (htrim : Text.trim p.text = p.text)
    (hname : vars.get? p.text = none) :
    (∀ v, vars.lookup p.text = some v ↔ ∃ start, vars.get? p.base = some start ∧ start.Leads p.steps v) ∧
      (vars.lookup p.text = none ↔ vars.get? p.base = none ∨
        ∃ start before s after w, vars.get? p.base = some start ∧ p.steps = before ++ s :: after ∧
          start.Leads before w ∧ w.Refuses s) := by
  rw [lookup_text hp htrim hname]
  constructor
  · intro v
    rw [Option.bind_eq_some_iff]
    simp only [Value.follow?_eq_some_iff]
  · cases hbase : vars.get? p.base with
    | none => simp
    | some start => simp [Value.follow?_eq_none_iff]

/-- Contacts under a key with a digit, a blank and a closing bracket in it. -/
def contacts : Variables := .ofList [("crm", .object [
  ("1 st]", .list [.list [], .list [.object [("name", .text "Luis")]]])])]

/-- The name of the first contact of the second list. -/
theorem lookup_path_contacts :
    let p : Path := ⟨"crm", [.field "1 st]", .item 1, .item 0, .field "name"]⟩
    p.text = "crm.1 st][1][0].name" ∧ p.IsPlain ∧ Text.trim p.text = p.text ∧ contacts.get? p.text = none ∧
      contacts.lookup p.text = some (.text "Luis") := by
  intro p
  have hp : p.IsPlain := ⟨by decide, by decide⟩
  have htrim : Text.trim p.text = p.text := by decide +kernel
  have hname : contacts.get? p.text = none := Entries.find?_eq_none_iff.2 (by decide +kernel)
  refine ⟨by decide +kernel, hp, htrim, hname, ((lookup_path hp htrim hname).1 _).2 ⟨_, rfl, ?_⟩⟩
  exact .field rfl (.item rfl (.item rfl (.field rfl (.here _))))

end Variables

end Dialogue
