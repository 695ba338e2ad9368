import TensorMemory.Session.Observation
import TensorMemory.Session.Variables

/-!
Steps on settings keep to the settings. Whatever is asked of the environment changes no more than
the environment and the guards over it, whatever is asked of the configuration no more than the cell
that holds it, and whatever is asked of tracing no more than that cell and the collector.
-/

namespace TensorMemory.Session

theorem changeEnvironment_same (s : Session) (r : Except EnvironmentError Environment) :
    ∃ environment guards, (s.changeEnvironment r).2 = { s with environment, guards } := by
  cases r <;> exact ⟨_, _, rfl⟩

theorem dropGuard_same (s : Session) (id : Nat) :
    ∃ environment guards, s.dropGuard id = { s with environment, guards } := by
  unfold dropGuard
  split <;> exact ⟨_, _, rfl⟩

theorem keepGuard_same (s : Session) (id : Nat) (value : Option Setting)
    (r : Except EnvironmentError Guard × Environment) :
    ∃ environment guards, (s.keepGuard id value r).2 = { s with environment, guards } := by
  obtain ⟨r, environment⟩ := r
  cases r with
  | error e => exact ⟨_, _, rfl⟩
  | ok guard =>
    obtain ⟨environment', guards, hdrop⟩ := dropGuard_same { s with environment } id
    simp only [keepGuard, hdrop]
    exact ⟨_, _, rfl⟩

/-- Steps on the environment touch the environment and its guards only. -/
theorem runEnvironmentStep_same (s : Session) (step : EnvironmentStep) :
    ∃ environment guards, (s.runEnvironmentStep step).2 = { s with environment, guards } := by
  cases step with
  | setRaw | setBytes => exact s.changeEnvironment_same _
  | set v value =>
    simp only [runEnvironmentStep]
    split
    · exact s.changeEnvironment_same _
    · exact ⟨_, _, rfl⟩
  | guardTyped id v value =>
    simp only [runEnvironmentStep]
    split
    · exact s.keepGuard_same ..
    · exact ⟨_, _, rfl⟩
  | guardUnset | guardChain => exact s.keepGuard_same ..
  | guardValue id =>
    simp only [runEnvironmentStep]
    split <;> exact ⟨_, _, rfl⟩
  | guardDrop id => exact s.dropGuard_same id
  | _ => exact ⟨_, _, rfl⟩

/-- Steps on the configuration touch its cell only. -/
theorem runConfigurationStep_same (s : Session) (step : ConfigurationStep) :
    ∃ configuration, (s.runConfigurationStep step).2 = { s with configuration } := by
  cases step with
  | demand =>
    simp only [runConfigurationStep]
    split <;> exact ⟨_, rfl⟩
  | _ => exact ⟨_, rfl⟩

/-- Steps on tracing touch the collector, and the cell of the configuration that they store. -/
theorem runTracingStep_same (s : Session) (step : TracingStep) :
    ∃ configuration collector,
      (s.runTracingStep step).2 = { s with configuration, collector } := by
  cases step with
  | metric text =>
    simp only [runTracingStep]
    split <;> exact ⟨_, _, rfl⟩
  | installFromEnvironment =>
    simp only [runTracingStep]
    generalize hr : s.runRequest .getOrLoad = requested
    obtain ⟨r, s'⟩ := requested
    obtain rfl := (congrArg Prod.snd hr).symm
    cases r with
    | error e => exact ⟨_, _, rfl⟩
    | ok c =>
      dsimp only
      generalize hi : install _ c = installed
      obtain ⟨r, s''⟩ := installed
      obtain rfl := (congrArg Prod.snd hi).symm
      cases r <;> exact ⟨_, _, rfl⟩
  | _ => exact ⟨_, _, rfl⟩

end TensorMemory.Session
