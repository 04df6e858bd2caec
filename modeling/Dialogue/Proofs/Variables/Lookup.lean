/-
Reading behind a write. A read takes the name without the blanks around it, then the variable of exactly that
name, and else the path that the name writes, from the variable at its base: the characters up to the first dot
or opening bracket. So a read sees a write when the trimmed name or the base of the path is the name written,
and else finds what it would have found before. A value written under a name is found again under this name
unless there are blanks around it, and a field of the value under name and field joined by a dot unless the name
has a dot or an opening bracket itself.
-/
import Dialogue.Proofs.Variables.Path
import Dialogue.Variables.Store
import Mathlib.Data.List.TakeWhile

namespace Dialogue

/-! ## The base of a path -/

namespace Path

/-- Whether a character goes on with the base of a path. -/
def inBase (c : Char) : Bool := c ≠ '.' && c ≠ '['

/-- The base that a text begins with. -/
def baseOf (s : List Char) : List Char := s.takeWhile inBase

theorem mem_of_all_inBase {s : List Char} (h : s.all inBase = true) : '.' ∉ s ∧ '[' ∉ s :=
  ⟨fun hc => absurd (List.all_eq_true.1 h _ hc) (by decide), fun hc => absurd (List.all_eq_true.1 h _ hc) (by decide)⟩

theorem baseOf_all (s : List Char) : (baseOf s).all inBase = true := by
  unfold baseOf
  rw [List.all_eq_true]
  exact fun c hc => List.mem_takeWhile_imp hc

/-- The first part of a text is what stands in front of the first separator. -/
theorem exists_splitOn_eq (separator : Char) (s : List Char) :
    ∃ parts, s.splitOn separator = s.takeWhile (· ≠ separator) :: parts := by
  induction s with
  | nil => exact ⟨[], List.splitOn_nil _⟩
  | cons c r ih =>
    obtain ⟨parts, hparts⟩ := ih
    rw [List.splitOn_cons_eq_if_modifyHead, hparts]
    by_cases h : c = separator
    · exact ⟨r.takeWhile (· ≠ separator) :: parts, by simp [h]⟩
    · exact ⟨parts, by simp [h]⟩

theorem base_of_read? {s : List Char} {p : Path} (h : read? s = some p) : p.base.toList = baseOf s := by
  obtain ⟨parts, hparts⟩ := exists_splitOn_eq '.' s
  rw [read?_of_splitOn hparts] at h
  obtain ⟨first, hfirst, h⟩ := Option.bind_eq_some_iff.1 h
  obtain ⟨_, -, rfl⟩ := Option.map_eq_some_iff.1 h
  obtain ⟨_, -, rfl⟩ := Option.map_eq_some_iff.1 hfirst
  -- the first part goes up to the first dot, and its key up to the first bracket in it
  show (String.ofList _).toList = _
  rw [String.toList_ofList, List.takeWhile_takeWhile]
  unfold baseOf inBase
  congr 1
  funext c
  simp [Bool.and_comm]

end Path

/-! ## Reads behind a write -/

namespace Variables

variable (vars : Variables) {name key : String} (value : Value)

/-- A variable of exactly the name that is asked for wins over every path. -/
theorem lookup_of_get? {vars : Variables} {value : Value} (h : vars.get? (Text.trim name) = some value) :
    vars.lookup name = some value := by
  unfold lookup
  simp only
  rw [h]

theorem lookup_of_get?_none {vars : Variables} (h : vars.get? (Text.trim name) = none) :
    vars.lookup name =
      (Path.read? (Text.trim name).toList).bind fun p => (vars.get? p.base).bind (·.follow? p.steps) := by
  unfold lookup
  simp only
  rw [h]

/-- A read that neither asks for the name written nor for a path from it does not see the write. -/
theorem lookup_insert_of_ne (hname : Text.trim name ≠ key) (hbase : Path.baseOf (Text.trim name).toList ≠ key.toList) :
    lookup (vars.insert key value) name = vars.lookup name := by
  have hget : (vars.insert key value).get? (Text.trim name) = vars.get? (Text.trim name) :=
    Dictionary.get?_insert_of_ne _ _ hname
  cases h : vars.get? (Text.trim name) with
  | some found => rw [lookup_of_get? h, lookup_of_get? (hget.trans h)]
  | none =>
    rw [lookup_of_get?_none h, lookup_of_get?_none (hget.trans h)]
    cases hp : Path.read? (Text.trim name).toList with
    | none => rfl
    | some p =>
      have hp' : p.base ≠ key := by
        rintro rfl
        exact hbase (Path.base_of_read? hp).symm
      rw [Option.bind_some, Option.bind_some, Dictionary.get?_insert_of_ne _ _ hp']

/-- A value is read under the name under which it was written, unless there are blanks around the name: then the
read does not see the write. -/
theorem lookup_insert : lookup (vars.insert name value) name =
    if Text.trim name = name then some value else vars.lookup name := by
  split
  · rename_i h
    exact lookup_of_get? (by rw [h, Dictionary.get?_insert_self])
  · rename_i h
    refine lookup_insert_of_ne _ _ h fun hbase => h ?_
    -- a base as long as the name leaves nothing that could have been trimmed
    have hinfix : Text.trimChars name.toList <:+: name.toList := Text.trimChars_infix _
    have hprefix : Path.baseOf (Text.trim name).toList <+: Text.trimChars name.toList := by
      unfold Path.baseOf Text.trim
      rw [String.toList_ofList]
      exact List.takeWhile_prefix _
    rw [hbase] at hprefix
    have hchars : Text.trimChars name.toList = name.toList := hinfix.eq_of_length_le hprefix.length_le
    unfold Text.trim
    rw [hchars, String.ofList_toList]

/-- A read by the text of a plain path, when no variable has the whole text for its name, follows the path. -/
theorem lookup_text {vars : Variables} {p : Path} (hp : p.IsPlain) (htrim : Text.trim p.text = p.text)
    (h : vars.get? p.text = none) : vars.lookup p.text = (vars.get? p.base).bind (·.follow? p.steps) := by
  rw [lookup_of_get?_none (by rw [htrim, h]), htrim, Path.read?_text hp, Option.bind_some]

/-- A field of a variable, when no variable has the whole name. -/
theorem lookup_field {vars : Variables} {base field : String} (hbase : base.toList.all Path.inBase = true)
    (hfield : field.toList.all Path.inBase = true) (hne : field ≠ "")
    (htrim : Text.trim (base ++ "." ++ field) = base ++ "." ++ field)
    (h : vars.get? (base ++ "." ++ field) = none) :
    vars.lookup (base ++ "." ++ field) = (vars.get? base).bind (·.field? field) := by
  have hp : Path.IsPlain ⟨base, [.field field]⟩ :=
    ⟨Path.mem_of_all_inBase hbase, by simpa [Step.IsPlain, hne] using Path.mem_of_all_inBase hfield⟩
  have htext : base ++ "." ++ field = Path.text ⟨base, [.field field]⟩ := by
    rw [← String.toList_inj]
    simp [Path.text, Step.chars]
  rw [htext] at htrim h ⊢
  rw [lookup_text hp htrim h]
  have hfollow : ∀ v : Value, v.follow? [.field field] = v.field? field := by
    intro v
    show (v.field? field).bind (·.follow? []) = _
    cases v.field? field <;> rfl
  simp only [hfollow]

/-- A field of a value is read behind the write, by the name and the field with a dot between them, unless the
name has a dot or an opening bracket itself: then the path starts at another variable and the read does not see
the write. -/
theorem lookup_insert_field {field : String} (hfield : field.toList.all Path.inBase = true) (hne : field ≠ "")
    (htrim : Text.trim (name ++ "." ++ field) = name ++ "." ++ field) (h : vars.get? (name ++ "." ++ field) = none) :
    lookup (vars.insert name value) (name ++ "." ++ field) =
      if name.toList.all Path.inBase then value.field? field else vars.lookup (name ++ "." ++ field) := by
  have hchars : (name ++ "." ++ field).toList = name.toList ++ '.' :: field.toList := by simp
  have hname : name ++ "." ++ field ≠ name := by
    intro he
    have := congrArg String.toList he
    rw [hchars] at this
    simp at this
  split
  · rename_i hbase
    rw [lookup_field hbase hfield hne htrim ((Dictionary.get?_insert_of_ne vars value hname).trans h),
      Dictionary.get?_insert_self, Option.bind_some]
  · rename_i hbase
    refine lookup_insert_of_ne vars value (by rw [htrim]; exact hname) fun he => hbase ?_
    rw [← he]
    exact Path.baseOf_all _

end Variables

end Dialogue
