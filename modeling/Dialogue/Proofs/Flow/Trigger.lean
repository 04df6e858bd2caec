/-
Which messages a keyword trigger accepts. A message and a keyword are put in lower case apart, each as a whole, and
then the one is looked for in the other; the letters of a keyword become the same in a message but for capital
sigmas, which may end a word in the one and not in the other. So a message that contains a keyword is accepted when
these look the same in both, and `ΠΑΣΧΑ` is not accepted for the keyword `ΠΑΣ`.
-/
import Dialogue.Flow.Basic
import Dialogue.Proofs.Text.Case
import Dialogue.Proofs.Text.Trim

namespace Dialogue.TriggerConfig

variable {config : TriggerConfig} {inbound : String}

theorem mentions_iff {text : List Char} {keyword : String} : mentions text keyword = true ↔
    Text.isBlankText keyword = false ∧ Text.lowerChars (Text.trimChars keyword.toList) <:+: text := by
  have hempty : (Text.lowerChars (Text.trimChars keyword.toList)).isEmpty = Text.isBlankText keyword := by
    rw [Bool.eq_iff_iff, List.isEmpty_iff, Text.lowerChars_eq_nil_iff, Text.trimChars_eq_nil_iff]
    rfl
  unfold mentions
  simp only [hempty, Bool.and_eq_true, Bool.not_eq_true', decide_eq_true_eq]

/-- A keyword trigger accepts a message when one of its keywords is not blank and found in it. -/
theorem accepts_iff (hkind : config.kind = .keyword) : config.accepts inbound = true ↔
    ∃ k ∈ config.keywords, Text.isBlankText k = false ∧
      Text.lowerChars (Text.trimChars k.toList) <:+: Text.lowerChars inbound.toList := by
  unfold accepts
  rw [hkind]
  simp only [List.any_eq_true, mentions_iff]

/-- A keyword that is not blank is itself a message that is accepted. -/
theorem accepts_keyword {k : String} (hkind : config.kind = .keyword) (hk : k ∈ config.keywords)
    (hblank : Text.isBlankText k = false) : config.accepts (Text.trim k) = true :=
  (accepts_iff hkind).2 ⟨k, hk, hblank, Text.toList_trim k ▸ List.infix_rfl⟩

/-! ## Messages that contain a keyword -/

/-- Whatever the keyword: if it is not blank, a keyword trigger that has it accepts every message in which it is
contained, provided that each of its capital sigmas ends a word in the message just when it does in the keyword
alone. And a trigger with this keyword only accepts all messages that contain it exactly when it accepts two of
them: the keyword behind a letter, and the keyword in front of a letter. -/
theorem accepts_containing (k : String) :
    (∀ (config : TriggerConfig) (p s : String), config.kind = .keyword → k ∈ config.keywords →
      Text.isBlankText k = false →
      (∀ front behind, (Text.trim k).toList = front ++ 'Σ' :: behind →
        Text.endsWord (front.reverse ++ p.toList.reverse) (behind ++ s.toList) = Text.endsWord front.reverse behind) →
      config.accepts (p ++ Text.trim k ++ s) = true) ∧
    ((∀ p s : String, (TriggerConfig.mk .keyword [k]).accepts (p ++ Text.trim k ++ s) = true) ↔
      (TriggerConfig.mk .keyword [k]).accepts ("A" ++ Text.trim k) = true ∧
        (TriggerConfig.mk .keyword [k]).accepts (Text.trim k ++ "A") = true) := by
  constructor
  · intro config p s hkind hk hblank hsigma
    rw [Text.toList_trim] at hsigma
    refine (accepts_iff hkind).2 ⟨k, hk, hblank, ?_⟩
    have hsame : Text.lowerChars (Text.trimChars k.toList) =
        Text.lowerBetween p.toList.reverse (Text.trimChars k.toList) s.toList := by
      refine (Text.lowerFrom_eq _ _).trans (Text.lowerBetween_eq_iff.2 fun front behind hs => ?_)
      rw [List.append_nil, List.append_nil]
      exact (hsigma front behind hs).symm
    rw [String.toList_append, String.toList_append, Text.toList_trim, Text.lowerChars_append, ← hsame]
    exact ⟨_, _, rfl⟩
  · have haccepts (inbound : String) : (TriggerConfig.mk .keyword [k]).accepts inbound = true ↔
        Text.isBlankText k = false ∧
          Text.lowerChars (Text.trimChars k.toList) <:+: Text.lowerChars inbound.toList := by
      simp [accepts_iff]
    have hall : (∀ p s : String, Text.lowerChars (Text.trimChars k.toList) <:+:
        Text.lowerChars (p.toList ++ Text.trimChars k.toList ++ s.toList)) ↔ ∀ p s : List Char,
          Text.lowerChars (Text.trimChars k.toList) <:+: Text.lowerChars (p ++ Text.trimChars k.toList ++ s) := by
      refine ⟨fun h p s => ?_, fun h p s => h p.toList s.toList⟩
      have := h (String.ofList p) (String.ofList s)
      rwa [String.toList_ofList, String.toList_ofList] at this
    simp only [haccepts, String.toList_append, Text.toList_trim, forall_and, forall_const, hall]
    rw [Text.forall_lowerChars_infix_iff, and_and_left]
    rfl

/-- In lower case a road is the same alone and in a sentence, where it ends a word as well. -/
theorem accepts_containing_road :
    (TriggerConfig.mk .keyword [" ", "ΟΔΟΣ "]).accepts ("Η " ++ Text.trim "ΟΔΟΣ " ++ " μου") = true := by
  refine (accepts_containing "ΟΔΟΣ ").1 _ "Η " " μου" rfl (by decide) (by decide +kernel) fun front behind h => ?_
  have htrim : (Text.trim "ΟΔΟΣ ").toList = ['Ο', 'Δ', 'Ο', 'Σ'] := by decide +kernel
  rw [htrim, eq_comm] at h
  obtain ⟨rfl, rfl⟩ : front = ['Ο', 'Δ', 'Ο'] ∧ behind = [] := by
    rcases front with _ | ⟨_, _ | ⟨_, _ | ⟨_, _ | ⟨_, front⟩⟩⟩⟩ <;> simp_all
  decide +kernel

/-- A message that contains a keyword need not be accepted: the sigma ends a word in the keyword, and none in the
message. -/
theorem accepts_containing_sigma : Text.isBlankText "ΠΑΣ" = false ∧
    (TriggerConfig.mk .keyword ["ΠΑΣ"]).accepts ("" ++ Text.trim "ΠΑΣ" ++ "ΧΑ") = false := by
  decide +kernel

end Dialogue.TriggerConfig
