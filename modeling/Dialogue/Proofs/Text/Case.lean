/-
Lower case of a part of a text. All letters but one become the same wherever they stand; a capital sigma looks at
what stands around it, past marks that count for nothing, and so a text in lower case need not contain the lower
case of its parts. Here is when it does: when each capital sigma of the part ends a word, or does not, in the text
as in the part alone. Two trials find out whether a part looks the same in every text: with a letter in front of
it, and with a letter behind it.
-/
import Dialogue.Text.Case
import Mathlib.Data.List.Forall2

namespace Dialogue.Text

variable {before after before' after' s t : List Char}

/-! ## Between two texts -/

/-- What becomes of a capital sigma. -/
def smallSigma (before after : List Char) : Char := if endsWord before after then 'ς' else 'σ'

theorem smallSigma_inj : smallSigma before after = smallSigma before' after' ↔
    endsWord before after = endsWord before' after' := by
  unfold smallSigma
  cases endsWord before after <;> cases endsWord before' after' <;> decide

/-- What becomes of a text between two others, of which the one in front is given from its end to its start. -/
def lowerBetween (before : List Char) : List Char → List Char → List Char
  | [], _ => []
  | c :: rest, after =>
    (if c.toNat = 0x3A3 then [smallSigma before (rest ++ after)] else lowerChar c) ++
      lowerBetween (c :: before) rest after

theorem lowerFrom_append (before s after : List Char) : lowerFrom before (s ++ after) =
    lowerBetween before s after ++ lowerFrom (s.reverse ++ before) after := by
  induction s generalizing before with
  | nil => rfl
  | cons c s ih =>
    rw [List.cons_append, lowerFrom, ih, lowerBetween, List.append_assoc, List.reverse_cons, List.append_assoc]
    rfl

theorem lowerFrom_eq (before s : List Char) : lowerFrom before s = lowerBetween before s [] := by
  have h := lowerFrom_append before s []
  rwa [List.append_nil, lowerFrom, List.append_nil] at h

/-- A text in lower case, cut in three. -/
theorem lowerChars_append (p s r : List Char) : lowerChars (p ++ s ++ r) =
    lowerBetween [] p (s ++ r) ++ lowerBetween p.reverse s r ++ lowerBetween (s.reverse ++ p.reverse) r [] := by
  unfold lowerChars
  rw [List.append_assoc, lowerFrom_append, lowerFrom_append, List.append_nil, lowerFrom_eq, List.append_assoc]

/-! ## The same text between others -/

theorem toNat_eq_sigma_iff {c : Char} : c.toNat = 0x3A3 ↔ c = 'Σ' :=
  ⟨fun h => Char.toNat_inj.1 h, fun h => h ▸ rfl⟩

/-- A statement about all capital sigmas of a text. -/
theorem forall_sigma_cons {c : Char} {p : List Char → List Char → Prop} :
    (∀ front behind, c :: s = front ++ 'Σ' :: behind → p front behind) ↔
      (c = 'Σ' → p [] s) ∧ ∀ front behind, s = front ++ 'Σ' :: behind → p (c :: front) behind := by
  constructor
  · intro h
    exact ⟨fun hc => h [] s (hc ▸ rfl), fun front behind hs => h (c :: front) behind (hs ▸ rfl)⟩
  · rintro ⟨hhead, htail⟩ front behind hs
    cases front with
    | nil =>
      obtain ⟨rfl, rfl⟩ := List.cons.inj hs
      exact hhead rfl
    | cons d front =>
      obtain ⟨rfl, rfl⟩ := List.cons.inj hs
      exact htail front behind rfl

/-- Character by character, a text becomes the same between two pairs of others, but for its capital sigmas. -/
theorem forall₂_lowerBetween {r : Char → Char → Prop} (hr : ∀ c, r c c)
    (h : ∀ front behind, s = front ++ 'Σ' :: behind →
      r (smallSigma (front.reverse ++ before) (behind ++ after))
        (smallSigma (front.reverse ++ before') (behind ++ after'))) :
    List.Forall₂ r (lowerBetween before s after) (lowerBetween before' s after') := by
  induction s generalizing before before' with
  | nil => exact .nil
  | cons c s ih =>
    obtain ⟨hhead, htail⟩ := forall_sigma_cons.1 h
    refine List.rel_append ?_ (ih fun front behind hs => ?_)
    · split
      case isTrue hc => exact .cons (hhead (toNat_eq_sigma_iff.1 hc)) .nil
      case isFalse => exact List.forall₂_same.2 fun c _ => hr c
    · simpa using htail front behind hs

/-- It becomes the same when all of its capital sigmas do. -/
theorem lowerBetween_eq_iff : lowerBetween before s after = lowerBetween before' s after' ↔
    ∀ front behind, s = front ++ 'Σ' :: behind → endsWord (front.reverse ++ before) (behind ++ after) =
      endsWord (front.reverse ++ before') (behind ++ after') := by
  constructor
  · intro h
    induction s generalizing before before' with
    | nil =>
      intro front behind hs
      cases front <;> cases hs
    | cons c s ih =>
      have hlength : ∀ b a, (if c.toNat = 0x3A3 then [smallSigma b (s ++ a)] else lowerChar c).length =
          if c.toNat = 0x3A3 then 1 else (lowerChar c).length := fun b a => by split <;> rfl
      obtain ⟨hhead, htail⟩ := List.append_inj h ((hlength before after).trans (hlength before' after').symm)
      refine forall_sigma_cons.2 ⟨fun hc => ?_, fun front behind hs => ?_⟩
      · rw [if_pos (toNat_eq_sigma_iff.2 hc), if_pos (toNat_eq_sigma_iff.2 hc)] at hhead
        exact smallSigma_inj.1 (List.cons.inj hhead).1
      · simpa using ih htail front behind hs
  · intro h
    refine List.forall₂_eq_eq_eq ▸ forall₂_lowerBetween (fun _ => rfl) fun front behind hs => ?_
    exact smallSigma_inj.2 (h front behind hs)

/-! ## Trials -/

/-- Two texts of which the second has another character where the first has `u`, and elsewhere the same, are the
same when `u` is no rarer in the second. -/
theorem eq_of_count_le {u : Char} {xs ys : List Char} (h : List.Forall₂ (fun x y => x = y ∨ x = u ∧ y ≠ u) xs ys)
    (hcount : xs.count u ≤ ys.count u) : xs = ys := by
  have hle : ∀ {xs ys : List Char}, List.Forall₂ (fun x y => x = y ∨ x = u ∧ y ≠ u) xs ys →
      ys.count u ≤ xs.count u := by
    intro xs ys h
    induction h with
    | nil => exact Nat.le_refl _
    | cons hxy _ ih =>
      rcases hxy with rfl | ⟨rfl, hy⟩
      · rw [List.count_cons, List.count_cons]
        omega
      · rw [List.count_cons_self, List.count_cons_of_ne hy]
        omega
  induction h with
  | nil => rfl
  | @cons x y xs ys hxy hrest ih =>
    have := hle hrest
    rcases hxy with rfl | ⟨rfl, hy⟩
    · rw [List.count_cons, List.count_cons] at hcount
      rw [ih (by omega)]
    · rw [List.count_cons_self, List.count_cons_of_ne hy] at hcount
      omega

theorem meetsCased_append (s t : List Char) : meetsCased (s ++ t) =
    if s.all (inRanges caseIgnorableRanges) then meetsCased t else meetsCased s := by
  unfold meetsCased
  induction s with
  | nil => rfl
  | cons c s ih =>
    rw [List.cons_append]
    by_cases hc : inRanges caseIgnorableRanges c = true
    · rw [List.dropWhile_cons_of_pos hc, List.dropWhile_cons_of_pos hc, ih, List.all_cons, hc, Bool.true_and]
    · rw [List.dropWhile_cons_of_neg hc, List.dropWhile_cons_of_neg hc, List.all_cons, eq_false_of_ne_true hc]
      rfl

theorem meetsCased_of_all (h : s.all (inRanges caseIgnorableRanges) = true) : meetsCased s = false := by
  have := meetsCased_append s []
  rw [List.append_nil, if_pos h] at this
  exact this

theorem meetsCased_append_letter (s : List Char) : meetsCased (s ++ ['A']) =
    (s.all (inRanges caseIgnorableRanges) || meetsCased s) := by
  rw [meetsCased_append]
  split
  case isTrue h =>
    rw [h, Bool.true_or]
    decide +kernel
  case isFalse h => rw [eq_false_of_ne_true h, Bool.false_or]

/-- What a letter in front and a letter behind do not change, nothing changes that may stand there. -/
theorem endsWord_eq_of_trials (hfront : endsWord (s ++ ['A']) t = endsWord s t)
    (hbehind : endsWord s (t ++ ['A']) = endsWord s t) (p r : List Char) :
    endsWord (s ++ p) (t ++ r) = endsWord s t := by
  unfold endsWord at *
  rw [meetsCased_append_letter] at hfront hbehind
  rw [meetsCased_append, meetsCased_append]
  by_cases hs : s.all (inRanges caseIgnorableRanges) = true
  · -- a letter in front would end the word here, unless there is one behind
    have ht : meetsCased t = true := by simpa [hs, meetsCased_of_all hs] using hfront
    have ht' : t.all (inRanges caseIgnorableRanges) ≠ true := fun h => by simp [meetsCased_of_all h] at ht
    rw [if_neg ht', ht, Bool.not_true, Bool.and_false, Bool.and_false]
  · rw [if_neg hs]
    by_cases ht : t.all (inRanges caseIgnorableRanges) = true
    · -- a letter behind would keep the word from ending, unless there is none in front
      have hs' : meetsCased s = false := by simpa [ht, meetsCased_of_all ht] using hbehind
      rw [hs', Bool.false_and, Bool.false_and]
    · rw [if_neg ht]

/-- A text that is found in lower case behind a letter is the same there: a letter in front can only turn `σ` into
`ς`, and then there is too little `σ`. -/
theorem lowerBetween_eq_of_infix_front (h : lowerBetween [] s [] <:+: 'a' :: lowerBetween ['A'] s []) :
    lowerBetween [] s [] = lowerBetween ['A'] s [] := by
  refine eq_of_count_le (u := 'σ') (forall₂_lowerBetween (fun _ => .inl rfl) fun front behind _ => ?_) ?_
  · unfold smallSigma endsWord
    rw [meetsCased_append_letter, List.append_nil]
    cases front.reverse.all (inRanges caseIgnorableRanges) <;> cases meetsCased front.reverse <;>
      cases meetsCased (behind ++ []) <;> decide
  · have hcount := h.sublist.count_le 'σ'
    rwa [List.count_cons_of_ne (by decide)] at hcount

/-- A text that is found in lower case in front of a letter is the same there, for a letter behind can only turn
`ς` into `σ`. -/
theorem lowerBetween_eq_of_infix_behind (h : lowerBetween [] s [] <:+: lowerBetween [] s ['A'] ++ ['a']) :
    lowerBetween [] s [] = lowerBetween [] s ['A'] := by
  refine eq_of_count_le (u := 'ς') (forall₂_lowerBetween (fun _ => .inl rfl) fun front behind _ => ?_) ?_
  · unfold smallSigma endsWord
    rw [meetsCased_append_letter, List.append_nil behind]
    cases behind.all (inRanges caseIgnorableRanges) <;> cases meetsCased behind <;>
      cases meetsCased (front.reverse ++ []) <;> decide
  · have hcount := h.sublist.count_le 'ς'
    rwa [List.count_append, List.count_singleton, if_neg (by decide), Nat.add_zero] at hcount

/-- A text is found in lower case wherever it stands, if it is found there with a letter in front of it and with a
letter behind it. -/
theorem forall_lowerChars_infix_iff : (∀ p r, lowerChars s <:+: lowerChars (p ++ s ++ r)) ↔
    lowerChars s <:+: lowerChars ('A' :: s) ∧ lowerChars s <:+: lowerChars (s ++ ['A']) := by
  constructor
  · intro h
    refine ⟨?_, h [] ['A']⟩
    have hfront := h ['A'] []
    rwa [List.append_nil] at hfront
  · rintro ⟨hfront, hbehind⟩ p r
    have hself : lowerChars s = lowerBetween [] s [] := lowerFrom_eq [] s
    have hletter : lowerChars ('A' :: s) = 'a' :: lowerBetween ['A'] s [] := congrArg ('a' :: ·) (lowerFrom_eq ['A'] s)
    rw [hself, hletter] at hfront
    have hlast : lowerChars (s ++ ['A']) = lowerBetween [] s ['A'] ++ ['a'] := lowerChars_append [] s ['A']
    rw [hself, hlast] at hbehind
    rw [lowerChars_append, hself]
    refine ⟨_, _, congrArg (fun m => _ ++ m ++ _) (lowerBetween_eq_iff.2 fun before after hs => ?_)⟩
    have hfront' := lowerBetween_eq_iff.1 (lowerBetween_eq_of_infix_front hfront) _ _ hs
    have hbehind' := lowerBetween_eq_iff.1 (lowerBetween_eq_of_infix_behind hbehind) _ _ hs
    rw [List.append_nil, List.append_nil] at hfront' hbehind' ⊢
    exact (endsWord_eq_of_trials hfront'.symm hbehind'.symm p.reverse r).symm

end Dialogue.Text
