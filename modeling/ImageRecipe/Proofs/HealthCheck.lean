import ImageRecipe.HealthCheck
import ImageRecipe.Proofs.Argument
import ImageRecipe.Proofs.Outcome

namespace ImageRecipe.HealthCheck

namespace Draft

def MeansProbe (d : Draft) : Prop := d.mode = none ∨ d.mode = some "cmd"

def HasOption (d : Draft) : Prop :=
  d.interval ≠ none ∨ d.timeout ≠ none ∨ d.startPeriod ≠ none ∨ d.retries ≠ none ∨
    d.command ≠ none

inductive Verdict (d : Draft) : Except Fault HealthCheck → Prop where
  | withoutCommand : d.MeansProbe → d.command = none →
      Verdict d (.error .healthCheckWithoutCommand)
  | withoutToken : d.MeansProbe → d.command = some (.exec []) →
      Verdict d (.error .malformedArgument)
  | probe {command : Argument} : d.MeansProbe → d.command = some command → command ≠ .exec [] →
      Verdict d (.ok (.probe ⟨d.interval, d.timeout, d.startPeriod, d.retries, command⟩))
  | withOptions : d.mode = some "none" → d.HasOption →
      Verdict d (.error .disabledHealthCheckWithOptions)
  | disabled : d.mode = some "none" → ¬ d.HasOption → Verdict d (.ok .disabled)
  | unsupported {mode : String} : d.mode = some mode → mode ≠ "cmd" → mode ≠ "none" →
      Verdict d (.error (.unsupportedHealthCheckMode mode))

end Draft

variable {d : Draft} {h : HealthCheck} {outcome : Except Fault HealthCheck}

theorem hasOptions_iff : d.hasOptions = true ↔ d.HasOption := by
  simp [Draft.hasOptions, Draft.HasOption, Option.isSome_iff_ne_none, or_assoc]

theorem resolve_of_meansProbe (probe : d.MeansProbe) :
    d.resolve =
      match d.command with
      | none => .error .healthCheckWithoutCommand
      | some command =>
        command.check.map fun _ =>
          .probe ⟨d.interval, d.timeout, d.startPeriod, d.retries, command⟩ := by
  have mode : d.mode.getD probeMode = probeMode := by
    rcases probe with unset | cmd
    · rw [unset]
      rfl
    · rw [cmd]
      rfl
  cases given : d.command <;> simp [Draft.resolve, mode, given]

theorem resolve_of_disabled (disabled : d.mode = some "none") :
    d.resolve =
      if d.hasOptions then .error .disabledHealthCheckWithOptions else .ok .disabled := by
  simp [Draft.resolve, disabled, probeMode, disabledMode]

theorem resolve_of_unsupported {mode : String} (stated : d.mode = some mode) (notCmd : mode ≠ "cmd")
    (notNone : mode ≠ "none") : d.resolve = .error (.unsupportedHealthCheckMode mode) := by
  simp [Draft.resolve, stated, probeMode, disabledMode, notCmd, notNone]

theorem resolve_of_verdict (verdict : d.Verdict outcome) : d.resolve = outcome := by
  cases verdict with
  | withoutCommand probe absent => rw [resolve_of_meansProbe probe, absent]
  | withoutToken probe given => rw [resolve_of_meansProbe probe, given]; rfl
  | probe probe given filled =>
    simp only [resolve_of_meansProbe probe, given, Argument.check_eq_ok_iff.mpr filled]
    rfl
  | withOptions disabled any =>
    rw [resolve_of_disabled disabled, if_pos (hasOptions_iff.mpr any)]
  | disabled disabled bare =>
    rw [resolve_of_disabled disabled, if_neg fun any => bare (hasOptions_iff.mp any)]
  | unsupported stated notCmd notNone => exact resolve_of_unsupported stated notCmd notNone

theorem exists_verdict (d : Draft) : ∃ outcome, d.Verdict outcome := by
  -- no mode at all, and the mode of a probe, are one case
  have probed (probe : d.MeansProbe) : ∃ outcome, d.Verdict outcome := by
    cases given : d.command with
    | none => exact ⟨_, .withoutCommand probe given⟩
    | some command =>
      by_cases empty : command = .exec []
      · exact ⟨_, .withoutToken probe (empty ▸ given)⟩
      · exact ⟨_, .probe probe given empty⟩
  cases stated : d.mode with
  | none => exact probed (.inl stated)
  | some mode =>
    by_cases cmd : mode = "cmd"
    · exact probed (.inr (cmd ▸ stated))
    · by_cases off : mode = "none"
      · by_cases any : d.HasOption
        · exact ⟨_, .withOptions (off ▸ stated) any⟩
        · exact ⟨_, .disabled (off ▸ stated) any⟩
      · exact ⟨_, .unsupported stated cmd off⟩

theorem resolve_eq_iff : d.resolve = outcome ↔ d.Verdict outcome := by
  constructor
  · rintro rfl
    obtain ⟨outcome, verdict⟩ := exists_verdict d
    rwa [resolve_of_verdict verdict]
  · exact resolve_of_verdict

theorem check_of_resolve (resolved : d.resolve = .ok h) : ∀ a ∈ h.command?, a.check = .ok () := by
  cases resolve_eq_iff.mp resolved with
  | probe _ _ filled =>
    rintro a ⟨⟩
    exact Argument.check_eq_ok_iff.mpr filled
  | disabled _ _ => nofun

theorem draft_of_resolve (resolved : d.resolve = .ok h) :
    h.draft = { d with mode := some (d.mode.getD "cmd") } := by
  obtain ⟨mode, interval, timeout, startPeriod, retries, command⟩ := d
  cases resolve_eq_iff.mp resolved with
  | probe probe given _ =>
    rcases probe with rfl | rfl <;> cases given <;> rfl
  | disabled disabled bare =>
    simp only [Draft.HasOption, not_or, not_not] at bare
    obtain ⟨rfl, rfl, rfl, rfl, rfl⟩ := bare
    cases disabled
    rfl

theorem resolve_draft (checked : ∀ a ∈ h.command?, a.check = .ok ()) : h.draft.resolve = .ok h := by
  cases h with
  | disabled => rfl
  | probe p =>
    have filled := Argument.check_eq_ok_iff.mp (checked p.command rfl)
    exact resolve_eq_iff.mpr (.probe (.inr rfl) rfl filled)

theorem resolve_draft_of_malformed {a : Argument} (runs : h.command? = some a)
    (malformed : a.check ≠ .ok ()) : h.draft.resolve = .error .malformedArgument := by
  cases h with
  | disabled => cases runs
  | probe p =>
    obtain rfl := Option.some.inj runs
    rw [ne_eq, Argument.check_eq_ok_iff, not_not] at malformed
    exact resolve_eq_iff.mpr (.withoutToken (.inr rfl) (congrArg some malformed))

theorem resolve_spelled (d : Draft) :
    ({ d with mode := some (d.mode.getD "cmd") } : Draft).resolve = d.resolve := by
  cases d with
  | mk mode => cases mode <;> rfl

theorem resolve_eq_ok_iff :
    d.resolve = .ok h ↔
      h.draft = { d with mode := some (d.mode.getD "cmd") } ∧
        ∀ a ∈ h.command?, a.check = .ok () := by
  constructor
  · intro resolved
    exact ⟨draft_of_resolve resolved, check_of_resolve resolved⟩
  · rintro ⟨spelled, checked⟩
    rw [← resolve_spelled, ← spelled, resolve_draft checked]

/-- What becomes of a statement depends on its mode and its options, and on nothing else. It is
accepted as a health check exactly if that one is stated by it, up to a mode that was left out, and
runs no malformed command. So a health check comes back from its statement, unless the command it
runs is malformed; then that is what is blamed. -/
theorem resolve_verdict :
    (∀ (d : Draft) (outcome : Except Fault HealthCheck),
      d.resolve = outcome ↔ d.Verdict outcome) ∧
    (∀ (d : Draft) (h : HealthCheck), d.resolve = .ok h ↔
      h.draft = { d with mode := some (d.mode.getD "cmd") } ∧
        ∀ a ∈ h.command?, a.check = .ok ()) ∧
    ∀ h : HealthCheck,
      (h.draft.resolve = .ok h ↔ ∀ a ∈ h.command?, a.check = .ok ()) ∧
      (h.draft.resolve = .error .malformedArgument ↔ ∃ a ∈ h.command?, a.check ≠ .ok ()) := by
  refine ⟨fun _ _ => resolve_eq_iff, fun _ _ => resolve_eq_ok_iff, fun h => ⟨?_, ?_, ?_⟩⟩
  · exact ⟨check_of_resolve, resolve_draft⟩
  · intro refused
    by_contra! checked
    rw [resolve_draft checked] at refused
    cases refused
  · rintro ⟨a, runs, malformed⟩
    exact resolve_draft_of_malformed runs malformed

end ImageRecipe.HealthCheck
