import TensorMemory.Proofs.Environment.Scene

/-!
What a process can hold in its environment: no value contains a null character. So whatever a guard
has noted can be stored again.
-/

namespace TensorMemory

namespace Environment

/-- No value contains a null character. -/
def Storable (env : Environment) : Prop :=
  ∀ v value, env.value v = some value → value.hasNull = false

theorem storable_empty : empty.Storable := nofun

theorem Storable.get {env : Environment} (h : env.Storable) (v : Variable) :
    NullFree (env.get v) := by
  intro text hget
  obtain ⟨value, hvalue, htext⟩ := Option.bind_eq_some_iff.1 hget
  cases value with
  | undecodable bytes => cases htext
  | text s =>
    cases htext
    have hnull := h v _ hvalue
    intro hmem
    rw [NativeText.hasNull, List.contains_iff_mem.2 hmem] at hnull
    cases hnull

theorem Storable.put {env : Environment} (h : env.Storable) (v : Variable) {value : Option String}
    (hvalue : NullFree value) : (env.put v value).Storable := by
  intro w stored hw
  rw [Environment.put, value_assign] at hw
  split at hw
  · obtain ⟨text, htext, rfl⟩ := Option.map_eq_some_iff.1 hw
    exact Bool.eq_false_iff.2 fun hnull => hvalue text htext (List.contains_iff_mem.1 hnull)
  · exact h w stored hw

theorem Storable.remove {env : Environment} (h : env.Storable) (v : Variable) :
    (env.remove v).Storable := h.put v nullFree_none

theorem Storable.set {env changed : Environment} (h : env.Storable) {v : Variable} {text : String}
    (hset : env.set v text = .ok changed) : changed.Storable := by
  obtain ⟨htext, rfl⟩ := (env.set_eq_ok_iff changed v text).1 hset
  exact h.put v (nullFree_some htext)

end Environment

namespace Guard

/-- What the guard has noted can be stored. -/
def Storable (g : Guard) : Prop := ∀ note ∈ g.saved, Environment.NullFree note.2

theorem storable_empty : empty.Storable := nofun

theorem Storable.noting {g : Guard} (hg : g.Storable) {env : Environment} (h : env.Storable)
    (v : Variable) : (g.noting env v).Storable := by
  intro note hnote
  obtain hnote | hnote := List.mem_append.1 hnote
  · exact hg note hnote
  · cases List.mem_singleton.1 hnote
    exact h.get v

theorem Storable.restore {g : Guard} (hg : g.Storable) {env : Environment} (h : env.Storable) :
    (g.restore env).Storable := by
  obtain ⟨saved⟩ := g
  induction saved with
  | nil => exact h
  | cons note saved ih =>
    exact (ih fun n hn => hg n (.tail _ hn)).put note.1 (hg note (.head _))

theorem Storable.override {g : Guard} (hg : g.Storable) {env : Environment} (h : env.Storable)
    (v : Variable) (value : Option String) : (g.override env v value).2.Storable := by
  obtain ⟨hfree, hmade⟩ | ⟨text, -, -, hgone⟩ := g.override_outcome env v value
  · rw [hmade]
    exact h.put v hfree
  · rw [hgone]
    exact (hg.noting h v).restore h

end Guard

namespace Descriptor

variable {α : Type}

theorem storable_set (d : Descriptor α) {env changed : Environment} (h : env.Storable) {value : α}
    (hset : d.set env value = .ok changed) : changed.Storable := by
  rw [set] at hset
  split at hset
  · cases hset
  · exact h.set hset

theorem storable_guarded (d : Descriptor α) {env : Environment} (h : env.Storable) (value : α) :
    (d.guarded env value).2.Storable := by
  rw [guarded_eq]
  cases hset : d.set env value with
  | ok changed => exact d.storable_set h hset
  | error e => exact h

end Descriptor

namespace Scene

/-- All that the environment holds, and all that guards have noted, can be stored. -/
structure Storable (s : Scene) : Prop where
  environment : s.environment.Storable
  guard : ∀ i g, s.guard? i = some g → g.Storable

theorem storable_start {env : Environment} (h : env.Storable) : (start env).Storable where
  environment := h
  guard i g hg := by simp [start, guard?] at hg

theorem Storable.plainly {s : Scene} (h : s.Storable) {r : Except EnvironmentError Environment}
    (hr : ∀ changed, r = .ok changed → changed.Storable) :
    (s.plainly r).environment.Storable := by
  cases r with
  | ok changed => exact hr changed rfl
  | error e => exact h.environment

theorem Storable.environment_step {s : Scene} (h : s.Storable) (deed : Deed) :
    (s.step deed).environment.Storable := by
  cases deed with
  | set v text => exact h.plainly fun changed hset => h.environment.set hset
  | remove v => exact h.environment.remove v
  | write d value => exact h.plainly fun changed hset => d.storable_set h.environment hset
  | clear d => exact h.environment.remove d.name
  | make v value =>
    simp only [step, keep_eq]
    exact Guard.storable_empty.override h.environment v value
  | makeTyped d value =>
    simp only [step, keep_eq]
    exact d.storable_guarded h.environment value
  | makeUnset d => exact h.environment.remove d.name
  | extend i v value =>
    cases hg : s.guard? i with
    | none =>
      simp only [step, hg]
      exact h.environment
    | some g =>
      simp only [step, hg, settle_eq]
      exact (h.guard i g hg).override h.environment v value
  | drop i =>
    cases hg : s.guard? i with
    | none =>
      simp only [step, hg]
      exact h.environment
    | some g =>
      simp only [step, hg]
      exact (h.guard i g hg).restore h.environment

theorem Storable.step {s : Scene} (h : s.Storable) (deed : Deed) : (s.step deed).Storable where
  environment := h.environment_step deed
  guard i g hg := by
    obtain hheld | ⟨-, v, rfl⟩ := held_cases hg
    · exact h.guard i g hheld
    · refine Guard.Storable.noting ?_ h.environment v
      cases hheld : s.guard? i with
      | none => exact Guard.storable_empty
      | some g => exact h.guard i g hheld

theorem Storable.run {s : Scene} (h : s.Storable) (deeds : List Deed) : (s.run deeds).Storable := by
  induction deeds generalizing s with
  | nil => exact h
  | cons deed deeds ih => exact ih (h.step deed)

end Scene
end TensorMemory
