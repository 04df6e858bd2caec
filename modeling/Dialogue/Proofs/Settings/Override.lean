/-
Overrides, setting by setting. What a pair of a key and a text does depends on nothing but the pair: its key names
one setting, or none, and its text is read as the new content of this setting, or refused. So the settings after
pairs that are not refused hold, each by itself, what the last text for it is read as, and what they held before if
there is no text for it (`Settings.Takes`), and it makes no difference how the pairs for different settings are
mixed.

A refused pair ends the overriding at once. What the pairs in front of it have set stays set: overrides are applied
as far as they go, and not all or none.
-/
import Dialogue.Settings
import Mathlib.Data.List.Basic

namespace Dialogue

/-! ## The settings one by one -/

/-- What a setting holds. -/
def Setting.Content : Setting → Type
  | .maxSteps => Nat
  | .webhookTimeoutMs => Nat
  | .aiTimeoutMs => Nat
  | .delayPolicy => DelayPolicy
  | .maxDelaySeconds => Binary
  | .aiFallback => Option String

/-- What a text is read as for a setting, or why it is refused. -/
def Setting.read (s : Setting) (text : String) : Except SettingsFault s.Content :=
  match s with
  | .maxSteps => Setting.number .maxSteps text readNatural
  | .webhookTimeoutMs => Setting.number .webhookTimeoutMs text readNatural
  | .aiTimeoutMs => Setting.number .aiTimeoutMs text readNatural
  | .delayPolicy => Setting.policy text
  | .maxDelaySeconds => Setting.number .maxDelaySeconds text readDouble
  | .aiFallback => .ok (if text = "" then none else some text)

namespace Config

/-- What a setting holds in the settings of the engine. -/
def get (c : Config) (s : Setting) : s.Content :=
  match s with
  | .maxSteps => c.maxSteps
  | .webhookTimeoutMs => c.webhookTimeoutMs
  | .aiTimeoutMs => c.aiTimeoutMs
  | .delayPolicy => c.delayPolicy
  | .maxDelaySeconds => c.maxDelaySeconds
  | .aiFallback => c.aiFallback

/-- The settings of the engine with one of them replaced. -/
def put (c : Config) (s : Setting) (x : s.Content) : Config :=
  match s, x with
  | .maxSteps, n => { c with maxSteps := n }
  | .webhookTimeoutMs, n => { c with webhookTimeoutMs := n }
  | .aiTimeoutMs, n => { c with aiTimeoutMs := n }
  | .delayPolicy, p => { c with delayPolicy := p }
  | .maxDelaySeconds, x => { c with maxDelaySeconds := x }
  | .aiFallback, t => { c with aiFallback := t }

@[simp] theorem get_put_self (c : Config) (s : Setting) (x : s.Content) : (c.put s x).get s = x := by
  cases s <;> rfl

theorem get_put_of_ne (c : Config) {s t : Setting} (x : s.Content) (h : t ≠ s) : (c.put s x).get t = c.get t := by
  cases s <;> cases t <;> first | rfl | exact absurd rfl h

/-- There is nothing in the settings of the engine but what the settings hold. -/
theorem eq_of_get {c d : Config} (h : ∀ s, c.get s = d.get s) : c = d := by
  obtain ⟨steps, webhook, ai, policy, seconds, fallback⟩ := c
  have hsteps : steps = d.maxSteps := h .maxSteps
  have hwebhook : webhook = d.webhookTimeoutMs := h .webhookTimeoutMs
  have hai : ai = d.aiTimeoutMs := h .aiTimeoutMs
  have hpolicy : policy = d.delayPolicy := h .delayPolicy
  have hseconds : seconds = d.maxDelaySeconds := h .maxDelaySeconds
  have hfallback : fallback = d.aiFallback := h .aiFallback
  rw [hsteps, hwebhook, hai, hpolicy, hseconds, hfallback]

theorem set_eq (c : Config) (s : Setting) (text : String) : c.set s text = (s.read text).map (c.put s) := by
  cases s <;> rfl

end Config

theorem Setting.ofKey?_eq_some_iff {key : String} {s : Setting} : ofKey? key = some s ↔ key = s.key := by
  unfold ofKey?
  constructor
  · intro h
    have := List.find?_some h
    exact (beq_iff_eq.1 this).symm
  · rintro rfl
    cases s <;> decide

/-! ## One pair -/

/-- Pairs of a key and a text, in the order in which they are applied. -/
abbrev Overrides := List (String × String)

/-- Why a pair is refused, if it is. -/
def Setting.refusal? (pair : String × String) : Option SettingsFault :=
  (ofKey? pair.1).bind fun s => match s.read (Text.trim pair.2) with
    | .ok _ => none
    | .error fault => some fault

namespace Overrides

/-- The texts for a setting, in order. -/
def texts (pairs : Overrides) (s : Setting) : List String := (pairs.filter (·.1 = s.key)).map (·.2)

theorem texts_append (first last : Overrides) (s : Setting) : texts (first ++ last) s = texts first s ++ texts last s := by
  unfold texts
  rw [List.filter_append, List.map_append]

end Overrides

namespace Settings

/-- The second settings are the first ones after pairs: what the last text for it is read as is what a setting
holds, and without a text for it what it held before. -/
def Takes (s : Settings) (pairs : Overrides) (t : Settings) : Prop :=
  ∀ setting : Setting, match (pairs.texts setting).getLast? with
    | some text => setting.read (Text.trim text) = .ok (t.engine.get setting)
    | none => t.engine.get setting = s.engine.get setting

/-- No more than one settings can be the ones after pairs. -/
theorem Takes.unique {s t u : Settings} {pairs : Overrides} (ht : s.Takes pairs t) (hu : s.Takes pairs u) : t = u := by
  have hengine : t.engine = u.engine := Config.eq_of_get fun setting => by
    have h1 := ht setting
    have h2 := hu setting
    split at h1
    · rename_i text htext
      rw [htext] at h2
      exact Except.ok.inj (h1.symm.trans h2)
    · rename_i hnone
      rw [hnone] at h2
      exact h1.trans h2.symm
  cases t
  cases u
  rw [Settings.mk.injEq]
  exact hengine

theorem takes_nil (s : Settings) : s.Takes [] s := fun _ => rfl

/-- The settings after pairs are those after the last of them on the settings after the others. -/
theorem Takes.append_iff {s t u : Settings} {first : Overrides} (h : s.Takes first t) (last : Overrides) :
    s.Takes (first ++ last) u ↔ t.Takes last u := by
  refine forall_congr' fun setting => ?_
  have hfirst := h setting
  rw [Overrides.texts_append, List.getLast?_append]
  cases (last.texts setting).getLast? with
  | some text => rfl
  | none =>
    rw [Option.none_or]
    -- without a later text the setting holds what the first pairs have made of it
    split at hfirst
    · rename_i text htext
      rw [hfirst, Except.ok.injEq]
      exact eq_comm
    · rename_i hnone
      rw [hfirst]

/-- A pair fails by itself, with any settings alike. -/
theorem set_of_refusal {s : Settings} {pair : String × String} {fault : SettingsFault}
    (h : Setting.refusal? pair = some fault) : s.set pair = .error fault := by
  obtain ⟨setting, hkey, hread⟩ := Option.bind_eq_some_iff.1 h
  unfold set
  rw [hkey]
  simp only [Config.set_eq]
  cases hr : setting.read (Text.trim pair.2) with
  | ok x => simp [hr] at hread
  | error f =>
    rw [hr] at hread
    cases hread
    rfl

/-- A pair that is not refused sets what it is for. -/
theorem exists_set {pair : String × String} (h : Setting.refusal? pair = none) (s : Settings) :
    ∃ t, s.set pair = .ok t ∧ s.Takes [pair] t := by
  unfold set
  cases hkey : Setting.ofKey? pair.1 with
  | none =>
    refine ⟨s, rfl, fun setting => ?_⟩
    have hne : pair.1 ≠ setting.key := by
      intro he
      rw [Setting.ofKey?_eq_some_iff.2 he] at hkey
      cases hkey
    simp [Overrides.texts, hne]
  | some named =>
    simp only [Config.set_eq]
    unfold Setting.refusal? at h
    rw [hkey, Option.bind_some] at h
    cases hread : named.read (Text.trim pair.2) with
    | error fault => simp [hread] at h
    | ok x =>
      refine ⟨⟨s.engine.put named x⟩, rfl, fun setting => ?_⟩
      have hname := Setting.ofKey?_eq_some_iff.1 hkey
      by_cases he : setting = named
      · subst he
        simp [Overrides.texts, hname, hread]
      · have hne : pair.1 ≠ setting.key := by
          intro hk
          rw [Setting.ofKey?_eq_some_iff.2 hk, Option.some.injEq] at hkey
          exact he hkey
        simp [Overrides.texts, hne, Config.get_put_of_ne _ _ he]

/-! ## All pairs -/

/-- Pairs that are not refused are all applied before the next one is looked at. -/
theorem exists_override {applied : Overrides} (h : ∀ pair ∈ applied, Setting.refusal? pair = none) (s : Settings)
    (rest : Overrides) : ∃ t, s.Takes applied t ∧ s.override (applied ++ rest) = t.override rest := by
  induction applied generalizing s with
  | nil => exact ⟨s, s.takes_nil, rfl⟩
  | cons pair applied ih =>
    obtain ⟨hpair, happlied⟩ := List.forall_mem_cons.1 h
    obtain ⟨t, hset, ht⟩ := exists_set hpair s
    obtain ⟨u, hu, hrest⟩ := ih happlied t
    refine ⟨u, (ht.append_iff applied).2 hu, ?_⟩
    rw [List.cons_append, override, hset]
    exact hrest

/-- Pairs of which none is refused are applied, and then the settings are checked as a whole. -/
theorem override_of_accepted {pairs : Overrides} (h : ∀ pair ∈ pairs, Setting.refusal? pair = none) (s : Settings) :
    ∃ t, s.Takes pairs t ∧ s.override pairs = (t, t.fault?) := by
  obtain ⟨t, ht, hoverride⟩ := exists_override h s []
  rw [List.append_nil] at hoverride
  exact ⟨t, ht, hoverride⟩

/-- Where a pair is refused, what the pairs in front of it have set is what is left. -/
theorem override_of_refused {applied : Overrides} {pair : String × String} {fault : SettingsFault}
    (h : ∀ p ∈ applied, Setting.refusal? p = none) (hpair : Setting.refusal? pair = some fault) (rest : Overrides)
    (s : Settings) :
    ∃ t, s.Takes applied t ∧ s.override (applied ++ pair :: rest) = (t, some fault) := by
  obtain ⟨t, ht, hoverride⟩ := exists_override h s (pair :: rest)
  refine ⟨t, ht, ?_⟩
  rw [hoverride, override, set_of_refusal hpair]

/-- Either no pair is refused, or one is the first. -/
theorem accepted_or_refused (pairs : Overrides) : (∀ pair ∈ pairs, Setting.refusal? pair = none) ∨
    ∃ applied pair rest fault, pairs = applied ++ pair :: rest ∧ (∀ p ∈ applied, Setting.refusal? p = none) ∧
      Setting.refusal? pair = some fault := by
  induction pairs with
  | nil => exact .inl (by simp)
  | cons pair rest ih =>
    cases hpair : Setting.refusal? pair with
    | some fault => exact .inr ⟨[], pair, rest, fault, rfl, by simp, hpair⟩
    | none =>
      rcases ih with h | ⟨applied, refused, rest, fault, rfl, happlied, hrefused⟩
      · exact .inl (List.forall_mem_cons.2 ⟨hpair, h⟩)
      · exact .inr ⟨pair :: applied, refused, rest, fault, rfl, List.forall_mem_cons.2 ⟨hpair, happlied⟩, hrefused⟩

/-- Overriding succeeds exactly when no pair is refused and nothing is wrong with the settings that the pairs
make. -/
theorem override_eq_none_iff {s t : Settings} {pairs : Overrides} : s.override pairs = (t, none) ↔
    (∀ pair ∈ pairs, Setting.refusal? pair = none) ∧ s.Takes pairs t ∧ t.fault? = none := by
  constructor
  · intro h
    rcases accepted_or_refused pairs with haccepted | ⟨applied, pair, rest, fault, rfl, happlied, hpair⟩
    · obtain ⟨u, hu, hoverride⟩ := override_of_accepted haccepted s
      rw [hoverride, Prod.mk.injEq] at h
      obtain ⟨rfl, hfault⟩ := h
      exact ⟨haccepted, hu, hfault⟩
    · obtain ⟨u, -, hoverride⟩ := override_of_refused happlied hpair rest s
      rw [hoverride] at h
      cases h
  · rintro ⟨haccepted, ht, hfault⟩
    obtain ⟨u, hu, hoverride⟩ := override_of_accepted haccepted s
    rw [hoverride, hu.unique ht, hfault]

/-- What is left of settings when overriding them fails. If a pair is refused, the pairs in front of the first such
pair are applied and nothing else: a setting with a text among them holds what the last one is read as, and every
other setting is what it was. If no pair is refused and the settings are wrong as a whole, all pairs are applied. -/
theorem override_eq_fault_iff (s t : Settings) (pairs : Overrides) (fault : SettingsFault) :
    s.override pairs = (t, some fault) ↔
      (∃ applied pair rest, pairs = applied ++ pair :: rest ∧ (∀ p ∈ applied, Setting.refusal? p = none) ∧
        Setting.refusal? pair = some fault ∧ s.Takes applied t) ∨
      ((∀ pair ∈ pairs, Setting.refusal? pair = none) ∧ s.Takes pairs t ∧ t.fault? = some fault) := by
  constructor
  · intro h
    rcases accepted_or_refused pairs with haccepted | ⟨applied, pair, rest, cause, rfl, happlied, hpair⟩
    · obtain ⟨u, hu, hoverride⟩ := override_of_accepted haccepted s
      rw [hoverride, Prod.mk.injEq] at h
      obtain ⟨rfl, hfault⟩ := h
      exact .inr ⟨haccepted, hu, hfault⟩
    · obtain ⟨u, hu, hoverride⟩ := override_of_refused happlied hpair rest s
      rw [hoverride, Prod.mk.injEq, Option.some.injEq] at h
      obtain ⟨rfl, rfl⟩ := h
      exact .inl ⟨applied, pair, rest, rfl, happlied, hpair, hu⟩
  · rintro (⟨applied, pair, rest, rfl, happlied, hpair, ht⟩ | ⟨haccepted, ht, hfault⟩)
    · obtain ⟨u, hu, hoverride⟩ := override_of_refused happlied hpair rest s
      rw [hoverride, hu.unique ht]
    · obtain ⟨u, hu, hoverride⟩ := override_of_accepted haccepted s
      rw [hoverride, hu.unique ht, hfault]

/-- A policy that is refused leaves the number of steps set. -/
theorem override_half_applied :
    let after := Settings.default.override [("CONVOFLOW_MAX_STEPS", "50"), ("CONVOFLOW_DELAY_POLICY", "nap")]
    after.2 = some (.badPolicy "CONVOFLOW_DELAY_POLICY" "nap") ∧ after.1.engine.maxSteps = 50 ∧
      after.1 ≠ Settings.default := by
  decide +kernel

end Settings

/-! ## Pairs in another order -/

/-- Pairs in two orders; those with the same key do not change places. -/
structure Overrides.Reorders (pairs others : Overrides) : Prop where
  perm : pairs.Perm others
  order : ∀ key, others.filter (·.1 = key) = pairs.filter (·.1 = key)

namespace Settings

/-- The order of pairs with different keys makes no difference. With pairs in two orders, keys that name no setting
and texts that are refused among them, overriding either fails in both, or succeeds in both and leaves the same
settings: each holds what the last text for it is read as, or what it held before if there is none, and nothing is
wrong with them as a whole. -/
theorem override_of_reorders {pairs others : Overrides} (h : Overrides.Reorders pairs others) (s : Settings) :
    (∃ t, s.override pairs = (t, none) ∧ s.override others = (t, none) ∧ s.Takes pairs t ∧ t.fault? = none) ∨
      ∃ fault fault', (s.override pairs).2 = some fault ∧ (s.override others).2 = some fault' := by
  have htexts : ∀ setting, Overrides.texts others setting = Overrides.texts pairs setting := by
    intro setting
    unfold Overrides.texts
    rw [h.order]
  have htakes : ∀ t, s.Takes others t ↔ s.Takes pairs t := by
    intro t
    unfold Takes
    simp only [htexts]
  have hiff : ∀ t, s.override others = (t, none) ↔ s.override pairs = (t, none) := by
    intro t
    rw [override_eq_none_iff, override_eq_none_iff, htakes]
    simp only [h.perm.mem_iff]
  cases hpairs : (s.override pairs).2 with
  | none =>
    have heq : s.override pairs = ((s.override pairs).1, none) := Prod.ext rfl hpairs
    obtain ⟨-, ht, hfault⟩ := override_eq_none_iff.1 heq
    exact .inl ⟨_, heq, (hiff _).2 heq, ht, hfault⟩
  | some fault =>
    cases hothers : (s.override others).2 with
    | none =>
      have heq := (hiff (s.override others).1).1 (Prod.ext rfl hothers)
      rw [heq] at hpairs
      cases hpairs
    | some fault' => exact .inr ⟨fault, fault', rfl, rfl⟩

/-- Two texts for one setting, mixed with others. -/
theorem override_of_reorders_twice :
    let pairs : Overrides := [("CONVOFLOW_MAX_STEPS", "50"), ("PATH", "/usr/bin"),
      ("CONVOFLOW_MAX_DELAY_SECONDS", " 1.5 "), ("CONVOFLOW_MAX_STEPS", "+12")]
    let others : Overrides := [("CONVOFLOW_MAX_DELAY_SECONDS", " 1.5 "), ("CONVOFLOW_MAX_STEPS", "50"),
      ("CONVOFLOW_MAX_STEPS", "+12"), ("PATH", "/usr/bin")]
    Overrides.Reorders pairs others ∧ (Settings.default.override pairs).1.engine.maxSteps = 12 ∧
      Settings.default.override others = Settings.default.override pairs := by
  intro pairs others
  have h : Overrides.Reorders pairs others := by
    refine ⟨by decide, fun key => ?_⟩
    by_cases hsteps : "CONVOFLOW_MAX_STEPS" = key
    · subst hsteps
      rfl
    · by_cases hpath : "PATH" = key
      · subst hpath
        rfl
      · simp [pairs, others, List.filter_cons, hsteps, hpath]
  refine ⟨h, by decide +kernel, ?_⟩
  rcases override_of_reorders h .default with ⟨t, ht, ht', -⟩ | ⟨fault, -, hfault, -⟩
  · rw [ht, ht']
  · rw [show (Settings.default.override pairs).2 = none by decide +kernel] at hfault
    cases hfault

end Settings

end Dialogue
