/-
Paths as texts. A path is written as its base, then `.key` for each field and `[index]` for each item, the index in
decimal. Cut at its dots, and each part at its brackets, the text gives back the path, whatever keys and indices
follow each other, as long as no key is empty or has a dot or an opening bracket in it, and no index is out of range.
-/
import Dialogue.Proofs.Text.Name
import Dialogue.Variables.Path

namespace Dialogue

/-! ## The text of a path -/

/-- The text of one step. -/
def Step.chars : Step → List Char
  | .field key => '.' :: key.toList
  | .item index => '[' :: Nat.toDigits 10 index ++ [']']

/-- The text of a path. -/
def Path.text (p : Path) : String := String.ofList (p.base.toList ++ p.steps.flatMap Step.chars)

/-- A step that its text stands for: a key that is there and has no dot and no opening bracket in it, or an index that
is not greater than the greatest integer. -/
def Step.IsPlain : Step → Prop
  | .field key => key ≠ "" ∧ '.' ∉ key.toList ∧ '[' ∉ key.toList
  | .item index => index ≤ maxInteger

instance : DecidablePred Step.IsPlain
  | .field _ => inferInstanceAs (Decidable (_ ∧ _ ∧ _))
  | .item _ => inferInstanceAs (Decidable (_ ≤ _))

/-- A path that its text stands for. -/
structure Path.IsPlain (p : Path) : Prop where
  base : '.' ∉ p.base.toList ∧ '[' ∉ p.base.toList
  steps : ∀ s ∈ p.steps, s.IsPlain

/-! ## Reading indices -/

theorem mapM_eq_some_map {α β : Type} {f : α → Option β} {g : α → β} {as : List α} (h : ∀ a ∈ as, f a = some (g a)) :
    as.mapM f = some (as.map g) := by
  induction as with
  | nil => rfl
  | cons a rest ih =>
    obtain ⟨ha, hrest⟩ := List.forall_mem_cons.1 h
    rw [List.mapM_cons, ha, ih hrest]
    rfl

namespace Word

theorem digit?_of_isDigit {c : Char} (h : c.isDigit = true) : digit? 10 c = some (c.toNat - '0'.toNat) := by
  obtain ⟨-, hle⟩ : 48 ≤ c.toNat ∧ c.toNat ≤ 57 := Char.isDigit_iff_toNat.1 h
  have hzero : '0'.toNat = 48 := rfl
  unfold digit?
  rw [if_pos h]
  exact if_pos (by omega)

/-- The decimal digits of a number are read as that number. -/
theorem digits?_toDigits {n limit : Nat} (h : n ≤ limit) : digits? 10 limit (Nat.toDigits 10 n) = some n := by
  have hdigits : (Nat.toDigits 10 n).mapM (digit? 10) =
      some ((Nat.toDigits 10 n).map fun c => c.toNat - '0'.toNat) :=
    mapM_eq_some_map fun c hc => digit?_of_isDigit (Nat.isDigit_of_mem_toDigits (by decide) (by decide) hc)
  have hvalue : ((Nat.toDigits 10 n).map fun c => c.toNat - '0'.toNat).foldl (fun n d => n * 10 + d) 0 = n := by
    have := Nat.ofDigitChars_ten_toDigits (n := n)
    rw [Nat.ofDigitChars_eq_foldl] at this
    simpa [List.foldl_map, Nat.mul_comm] using this
  unfold digits?
  rw [if_neg Nat.toDigits_ne_nil, hdigits]
  simp only
  rw [hvalue, if_pos h]

end Word

namespace Path

theorem not_mem_toDigits {c : Char} (h : c.isDigit = false) (n : Nat) : c ∉ Nat.toDigits 10 n := by
  intro hc
  rw [Nat.isDigit_of_mem_toDigits (by decide) (by decide) hc] at h
  cases h

theorem index?_toDigits {index : Nat} (h : index ≤ maxInteger) : index? (Nat.toDigits 10 index) = some index := by
  have htrim : Text.trimChars (Nat.toDigits 10 index) = Nat.toDigits 10 index := by
    refine Text.trimChars_eq_self fun c hc => ?_
    have hdigit : c.isDigit = true := Nat.isDigit_of_mem_toDigits (by decide) (by decide) hc
    obtain ⟨hge, hle⟩ : 48 ≤ c.toNat ∧ c.toNat ≤ 57 := Char.isDigit_iff_toNat.1 hdigit
    rw [Bool.eq_false_iff]
    intro hb
    have := Text.isBlank_toNat_le hb (by omega)
    omega
  unfold index?
  rw [htrim]
  split
  · rename_i ds hds
    exact absurd (hds ▸ List.mem_cons_self) (not_mem_toDigits (c := '+') (by decide) index)
  · exact Word.digits?_toDigits h

/-- The text of indices, one behind the other. -/
def indexChars (is : List Nat) : List Char := is.flatMap fun i => (Step.item i).chars

/-- Indices in brackets are cut at the closing ones. -/
theorem splitOn_indexChars (is : List Nat) :
    (indexChars is).splitOn ']' = (is.map fun i => '[' :: Nat.toDigits 10 i) ++ [[]] := by
  induction is with
  | nil => rfl
  | cons i is ih =>
    have hclosing : ']' ∉ '[' :: Nat.toDigits 10 i :=
      List.not_mem_cons_of_ne_of_not_mem (by decide) (not_mem_toDigits (by decide) i)
    unfold indexChars at ih ⊢
    rw [List.flatMap_cons, Step.chars, List.append_assoc, List.singleton_append,
      List.splitOn_append_cons_self_of_not_mem hclosing, ih]
    rfl

theorem indices?_indexChars {is : List Nat} (h : ∀ i ∈ is, i ≤ maxInteger) : indices? (indexChars is) = some is := by
  unfold indices?
  rw [splitOn_indexChars, List.reverse_append]
  simp only [List.reverse_cons, List.reverse_nil, List.nil_append, List.singleton_append, List.reverse_reverse]
  rw [List.mapM_map]
  have hopened : ∀ i ∈ is, (opened? ∘ fun i => '[' :: Nat.toDigits 10 i) i = some (id i) :=
    fun i hi => index?_toDigits (h i hi)
  rw [mapM_eq_some_map hopened, List.map_id]

/-! ## Reading parts -/

/-- A key and indices behind it are one part. -/
theorem part?_chars {key : List Char} {is : List Nat} (hkey : '[' ∉ key) (h : ∀ i ∈ is, i ≤ maxInteger) :
    part? (key ++ indexChars is) = some (String.ofList key, is) := by
  have hpos : ∀ c ∈ key, decide (c ≠ '[') = true := fun c hc => decide_eq_true fun he => hkey (he ▸ hc)
  -- the indices begin with a bracket, unless there are none
  have hstop : (indexChars is).takeWhile (· ≠ '[') = [] ∧ (indexChars is).dropWhile (· ≠ '[') = indexChars is := by
    cases is with
    | nil => exact ⟨rfl, rfl⟩
    | cons i is => simp [indexChars, Step.chars]
  unfold part?
  rw [List.dropWhile_append_of_pos hpos, List.takeWhile_append_of_pos hpos, hstop.1, hstop.2, indices?_indexChars h,
    List.append_nil]
  rfl

theorem read?_of_splitOn {s first : List Char} {rest : List (List Char)} (h : s.splitOn '.' = first :: rest) :
    read? s = (part? first).bind fun base => (rest.mapM part?).map fun parts =>
      ⟨base.1, base.2.map .item ++ parts.flatMap partSteps⟩ := by
  unfold read?
  rw [h]
  show ((part? first).bind fun base => (rest.mapM part?).bind fun parts => _) = _
  cases part? first with
  | none => rfl
  | some base => cases rest.mapM part? <;> rfl

/-- Behind a dot stands a path of its own, whose base is a field, unless it is empty. -/
theorem read?_append_dot {s : List Char} (h : '.' ∉ s) (t : List Char) :
    read? (s ++ '.' :: t) = (part? s).bind fun part => (read? t).map fun p =>
      ⟨part.1, part.2.map .item ++ (partSteps (p.base, []) ++ p.steps)⟩ := by
  obtain ⟨first, rest, ht⟩ := List.exists_cons_of_ne_nil (List.splitOn_ne_nil '.' t)
  rw [read?_of_splitOn (List.splitOn_append_cons_self_of_not_mem h t), read?_of_splitOn ht, ht, List.mapM_cons]
  cases part? s with
  | none => rfl
  | some part =>
    cases part? first with
    | none => rfl
    | some base =>
      cases rest.mapM part? with
      | none => rfl
      | some parts => simp [partSteps]

theorem dot_not_mem {key : List Char} (h : '.' ∉ key) (is : List Nat) : '.' ∉ key ++ indexChars is := by
  rw [List.mem_append, not_or]
  refine ⟨h, fun hc => ?_⟩
  obtain ⟨i, -, hc⟩ := List.mem_flatMap.1 hc
  have hdigits := not_mem_toDigits (c := '.') (by decide) i
  simp [Step.chars, hdigits] at hc

/-- A base and indices, with more steps behind. -/
theorem read?_chars {steps : List Step} (hsteps : ∀ s ∈ steps, s.IsPlain) {base : List Char}
    (hbase : '.' ∉ base ∧ '[' ∉ base) (is : List Nat) (his : ∀ i ∈ is, i ≤ maxInteger) :
    read? (base ++ indexChars is ++ steps.flatMap Step.chars) =
      some ⟨String.ofList base, is.map .item ++ steps⟩ := by
  -- the indices behind the base grow until a field begins the next part
  induction steps generalizing base is with
  | nil =>
    rw [List.flatMap_nil, List.append_nil, List.append_nil,
      read?_of_splitOn (List.splitOn_eq_singleton (dot_not_mem hbase.1 is)), part?_chars hbase.2 his]
    simp
  | cons step rest ih =>
    obtain ⟨hstep, hrest⟩ := List.forall_mem_cons.1 hsteps
    cases step with
    | item i =>
      have his' : ∀ j ∈ is ++ [i], j ≤ maxInteger := by
        intro j hj
        rcases List.mem_append.1 hj with hj | hj
        · exact his j hj
        · rw [List.mem_singleton.1 hj]
          exact hstep
      simpa [indexChars] using ih hrest hbase _ his'
    | field key =>
      obtain ⟨hne, hkey⟩ := hstep
      have hnext : read? (key.toList ++ rest.flatMap Step.chars) = some ⟨key, rest⟩ := by
        simpa [indexChars] using ih hrest hkey [] (by simp)
      rw [List.flatMap_cons, Step.chars, List.cons_append, read?_append_dot (dot_not_mem hbase.1 is),
        part?_chars hbase.2 his, hnext]
      simp [partSteps, hne]

/-- The text of a plain path is read as that path. -/
theorem read?_text {p : Path} (h : p.IsPlain) : read? p.text.toList = some p := by
  have := read?_chars h.steps h.base [] (by simp)
  simpa [text, indexChars] using this

end Path

end Dialogue
