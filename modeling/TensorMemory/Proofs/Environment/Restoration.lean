import TensorMemory.Proofs.Environment.Scene

/-!
What dropping a guard restores. Each variable gets what it held when the guard first overrode it,
whatever has happened to it since. So guards that are dropped in the reverse order of their making
take the environment back step by step, and guards that share no variable can be dropped in any
order.
-/

namespace TensorMemory.Scene

/-- The youngest of the guards that are held. -/
def IsLast (s : Scene) (i : Nat) : Prop :=
  (s.guard? i).isSome ∧ ∀ j, i < j → s.guard? j = none

/-- Only guards change the environment, and no guard is extended or dropped while a younger one is
held: making one of them lies wholly within the life of the other. -/
def Orderly : Scene → List Deed → Prop
  | _, [] => True
  | s, deed :: deeds =>
    deed.isPlain = false ∧ (∀ i, deed.target? = some i → s.IsLast i) ∧ (s.step deed).Orderly deeds

/-- What is left of an environment after all the guards are dropped, from the last to the first. -/
def rewind (env : Environment) (guards : List (Option Guard)) : Environment :=
  guards.foldr (fun g env => g.elim env (·.restore env)) env

theorem rewind_append (env : Environment) (guards later : List (Option Guard)) :
    rewind env (guards ++ later) = rewind (rewind env later) guards := List.foldr_append

theorem rewind_none {env : Environment} {guards : List (Option Guard)}
    (h : ∀ g ∈ guards, g = none) : rewind env guards = env := by
  induction guards with
  | nil => rfl
  | cons g guards ih =>
    rw [h g (.head _)]
    exact ih fun g' hg' => h g' (.tail _ hg')

/-- The youngest guard is the first to be dropped, whatever has become of it. -/
theorem IsLast.rewind_set {s : Scene} {j : Nat} (hj : s.IsLast j) {i : Nat} (hij : i ≤ j)
    (env : Environment) (x : Option Guard) :
    rewind env ((s.guards.set j x).drop i) =
      rewind (x.elim env (·.restore env)) ((s.guards.take j).drop i) := by
  obtain ⟨g, hg⟩ := Option.isSome_iff_exists.1 hj.1
  have hlt := lt_length hg
  have hnone : rewind env (s.guards.drop (j + 1)) = env := by
    refine rewind_none fun g hg => ?_
    obtain ⟨k, hk⟩ := List.mem_iff_getElem?.1 hg
    have hlater := hj.2 (j + 1 + k) (by omega)
    rw [List.getElem?_drop] at hk
    rwa [guard?, hk] at hlater
  rw [List.set_eq_take_append_cons_drop, if_pos hlt,
    List.drop_append_of_le_length (by rw [List.length_take]; omega), rewind_append]
  congr 1
  cases x with
  | none => exact hnone
  | some g => exact congrArg g.restore hnone

theorem IsLast.rewind_drop {s : Scene} {j : Nat} (hj : s.IsLast j) {g : Guard}
    (hg : s.guard? j = some g) {i : Nat} (hij : i ≤ j) :
    rewind s.environment (s.guards.drop i) =
      rewind (g.restore s.environment) ((s.guards.take j).drop i) := by
  obtain ⟨hlt, hheld⟩ := List.getElem?_eq_some_iff.1 (Option.join_eq_some_iff.1 hg)
  have hsame : s.guards.set j (some g) = s.guards := by rw [← hheld, List.set_getElem_self]
  have hset := hj.rewind_set hij s.environment (some g)
  rwa [hsame] at hset

/-- A guard that is made, extended or dropped in its turn leads back to the same environment. -/
theorem Change.rewind {s t : Scene} {deed : Deed} (hst : Change s deed t)
    (h : s.environment.Textual) (hguards : deed.isPlain = false)
    (hlast : ∀ j, deed.target? = some j → s.IsLast j) {i : Nat} (hi : i < s.guards.length)
    (hlive : (s.guard? i).isSome) :
    Scene.rewind t.environment (t.guards.drop i) =
      Scene.rewind s.environment (s.guards.drop i) := by
  have hge : ∀ j, deed.target? = some j → i ≤ j := by
    intro j hj
    refine Nat.le_of_not_lt fun hji => ?_
    rw [(hlast j hj).2 i hji] at hlive
    cases hlive
  cases hst with
  | stayed => rfl
  | wrote hplain =>
    rw [hguards] at hplain
    cases hplain
  | made v text =>
    rw [List.drop_append_of_le_length (Nat.le_of_lt hi), rewind_append]
    exact congrArg (Scene.rewind · _) (Guard.restore_noting_put .empty h v text)
  | refused =>
    rw [List.drop_append_of_le_length (Nat.le_of_lt hi), rewind_append]
    rfl
  | extended hj hg v text =>
    rw [(hlast _ hj).rewind_drop hg (hge _ hj), (hlast _ hj).rewind_set (hge _ hj)]
    exact congrArg (Scene.rewind · _) (Guard.restore_noting_put _ h v text)
  | dropped hj hg =>
    rw [(hlast _ hj).rewind_drop hg (hge _ hj), (hlast _ hj).rewind_set (hge _ hj)]
    rfl

theorem Orderly.isLast {s : Scene} {deeds : List Deed} {i : Nat}
    (h : s.Orderly (deeds ++ [.drop i])) : (s.run deeds).IsLast i := by
  induction deeds generalizing s with
  | nil => exact h.2.1 i rfl
  | cons deed deeds ih => exact ih h.2.2

theorem run_rewind {s : Scene} (htext : s.environment.Textual) {i : Nat}
    (hi : i < s.guards.length) {deeds : List Deed} (h : s.Orderly (deeds ++ [.drop i])) :
    (s.run (deeds ++ [.drop i])).environment = rewind s.environment (s.guards.drop i) := by
  induction deeds generalizing s with
  | nil =>
    have hlast := h.isLast
    obtain ⟨g, hg⟩ := Option.isSome_iff_exists.1 hlast.1
    rw [run_nil] at hlast hg
    rw [hlast.rewind_drop hg (Nat.le_refl i), List.drop_take_self, List.nil_append, run_cons,
      step_drop, hg]
    rfl
  | cons deed deeds ih =>
    have hst := change_step htext deed
    have hlive : (s.guard? i).isSome := by
      rw [Option.isSome_iff_ne_none]
      intro hgone
      have hlast : (s.run (deed :: deeds)).IsLast i := Orderly.isLast h
      rw [IsLast, run_gone hi hgone] at hlast
      cases hlast.1
    rw [← hst.rewind htext h.1 h.2.1 hi hlive]
    exact ih (hst.textual htext) (Nat.lt_of_lt_of_le hi (s.length_le_step deed)) h.2.2

/-- A guard that has just been made leads back to where it was made. -/
theorem Change.rewind_made {s t : Scene} {deed : Deed} (hst : Change s deed t)
    (h : s.environment.Textual) {g : Guard} (hmade : t.guard? s.guards.length = some g) :
    Scene.rewind t.environment (t.guards.drop s.guards.length) = s.environment := by
  have hnew : s.guard? s.guards.length = none := by simp [guard?]
  cases hst with
  | stayed | wrote => cases hnew.symm.trans hmade
  | made v text =>
    rw [List.drop_left]
    exact Guard.restore_noting_put .empty h v text
  | refused =>
    rw [guard?_append, if_pos rfl] at hmade
    cases hmade
  | extended _ hj | dropped _ hj =>
    rw [guard?_set hj, if_neg (Nat.ne_of_gt (lt_length hj)), hnew] at hmade
    cases hmade

/-- A guard that is made and dropped in its turn leaves the environment as it found it. -/
theorem run_orderly {s : Scene} (htext : s.environment.Textual) {deed : Deed}
    (hmade : ((s.step deed).guard? s.guards.length).isSome) {later : List Deed}
    (h : s.Orderly (deed :: later ++ [.drop s.guards.length])) :
    (s.run (deed :: later ++ [.drop s.guards.length])).environment = s.environment := by
  obtain ⟨g, hg⟩ := Option.isSome_iff_exists.1 hmade
  have hst := change_step htext deed
  calc ((s.step deed).run (later ++ [.drop s.guards.length])).environment
      = rewind (s.step deed).environment ((s.step deed).guards.drop s.guards.length) :=
        run_rewind (hst.textual htext) (lt_length hg) h.2.2
    _ = s.environment := hst.rewind_made htext hg

theorem drop_value (s : Scene) (i : Nat) (v : Variable) :
    (s.step (.drop i)).environment.value v =
      ((((s.guard? i).getD .empty).first? v).map (Option.map .text)).getD
        (s.environment.value v) := by
  rw [step_drop, Guard.value_restore]

/-- Dropping a guard leaves the variables alone that it has not overridden. -/
theorem drop_value_of_notMem {s : Scene} {i : Nat} {v : Variable} (hv : v ∉ s.overridden i) :
    (s.step (.drop i)).environment.value v = s.environment.value v := by
  rw [drop_value, (Guard.first?_eq_none_iff _ _).2 hv]
  rfl

/-- Dropping a guard gives a variable what it held when the guard first overrode it. -/
theorem drop_value_of_first {s : Scene} (htext : s.environment.Textual) {deed : Deed}
    {later : List Deed} {i : Nat} {v : Variable} (hbefore : v ∉ s.overridden i)
    (hafter : v ∈ (s.step deed).overridden i)
    (hlive : (((s.step deed).run later).guard? i).isSome) :
    (((s.step deed).run later).step (.drop i)).environment.value v = s.environment.value v := by
  obtain ⟨g, hg⟩ := Option.isSome_iff_exists.1 hlive
  rw [drop_value, hg, Option.getD_some, first?_of_first hbefore hafter hg, htext v]
  rfl

/-- No variable is overridden by both guards. -/
def Apart (s : Scene) (i j : Nat) : Prop := ∀ v ∈ s.overridden i, v ∉ s.overridden j

theorem overridden_drop_subset (s : Scene) (i j : Nat) :
    (s.step (.drop i)).overridden j ⊆ s.overridden j := by
  rw [overridden, guard?_drop]
  split
  · exact List.nil_subset _
  · exact List.Subset.refl _

theorem Apart.drop {s : Scene} {i j : Nat} (h : s.Apart i j) (k : Nat) :
    (s.step (.drop k)).Apart i j := fun v hi hj =>
  h v (overridden_drop_subset s k i hi) (overridden_drop_subset s k j hj)

/-- What a guard gives back does not depend on another that leaves the variable alone. -/
theorem drop_value_drop {s : Scene} {i j : Nat} (hij : i ≠ j) {v : Variable}
    (hv : v ∉ s.overridden j) :
    ((s.step (.drop j)).step (.drop i)).environment.value v =
      (s.step (.drop i)).environment.value v := by
  rw [drop_value, guard?_drop, if_neg hij, drop_value_of_notMem hv, ← drop_value]

/-- Two guards that share no variable can be dropped in either order. -/
theorem Apart.drop_comm {s : Scene} {i j : Nat} (hij : i ≠ j) (h : s.Apart i j) :
    (s.step (.drop i)).step (.drop j) = (s.step (.drop j)).step (.drop i) := by
  refine Scene.ext ?environment ?guards
  case environment =>
    ext1 v
    by_cases hv : v ∈ s.overridden i
    · have hj := h v hv
      rw [drop_value_drop hij hj,
        drop_value_of_notMem fun hdrop => hj (overridden_drop_subset s i j hdrop)]
    · rw [drop_value_drop hij.symm hv,
        drop_value_of_notMem fun hdrop => hv (overridden_drop_subset s j i hdrop)]
  case guards =>
    simp only [step_drop]
    exact List.set_comm none none hij

/-- Guards that share no variables can be dropped in any order. -/
theorem run_drop_perm {s : Scene} {is js : List Nat} (hperm : is.Perm js)
    (h : ∀ i ∈ is, ∀ j ∈ is, i ≠ j → s.Apart i j) :
    s.run (is.map .drop) = s.run (js.map .drop) := by
  induction hperm generalizing s with
  | nil => rfl
  | cons k _ ih =>
    exact ih fun i hi j hj hij => (h i (.tail _ hi) j (.tail _ hj) hij).drop k
  | swap i j is =>
    by_cases hij : i = j
    · rw [hij]
    · have happart := h j (.head _) i (.tail _ (.head _)) (Ne.symm hij)
      simp only [List.map_cons, run_cons, happart.drop_comm (Ne.symm hij)]
  | trans hfirst _ ihfirst ihsecond =>
    exact (ihfirst h).trans
      (ihsecond fun i hi j hj => h i (hfirst.mem_iff.2 hi) j (hfirst.mem_iff.2 hj))

/-- Guards restore. From any state that an environment of texts can get into, whatever else happens
while a guard is held:

* a variable that the guard has overridden gets what it held just before the first time;
* all other variables are left as they are;
* a guard that is made and dropped in its turn leaves the environment as it found it;
* guards that share no variables can be dropped in any order. -/
theorem restoration (env : Environment) (htext : env.Textual) (deeds : List Deed) :
    let s := (start env).run deeds
    (∀ (deed : Deed) (later : List Deed) (i : Nat) (v : Variable),
      v ∉ s.overridden i → v ∈ (s.step deed).overridden i →
      (((s.step deed).run later).guard? i).isSome →
      (((s.step deed).run later).step (.drop i)).environment.value v = s.environment.value v) ∧
    (∀ (i : Nat) (v : Variable), v ∉ s.overridden i →
      (s.step (.drop i)).environment.value v = s.environment.value v) ∧
    (∀ (deed : Deed) (later : List Deed),
      ((s.step deed).guard? s.guards.length).isSome →
      s.Orderly (deed :: later ++ [.drop s.guards.length]) →
      (s.run (deed :: later ++ [.drop s.guards.length])).environment = s.environment) ∧
    ∀ is js : List Nat, is.Perm js → (∀ i ∈ is, ∀ j ∈ is, i ≠ j → s.Apart i j) →
      s.run (is.map .drop) = s.run (js.map .drop) := by
  have h := run_textual (s := start env) htext deeds
  exact ⟨fun _ _ _ _ => drop_value_of_first h, fun _ _ => drop_value_of_notMem,
    fun _ _ hmade horderly => run_orderly h hmade horderly, fun _ _ => run_drop_perm⟩

/-- A level that is overridden twice by one guard and plainly after that comes back as it was. -/
theorem restoration_overridden_twice :
    Environment.empty.Textual ∧
      ((start .empty).run [.set .logLevel "warn", .make .logLevel (some "info"),
        .make .traceCommands none, .extend 0 .logLevel (some "trace"), .set .logLevel "off",
        .drop 0]).environment.value .logLevel = some (.text "warn") := by
  have htext : Environment.empty.Textual := fun _ => rfl
  refine ⟨htext, ?_⟩
  exact ((restoration .empty htext [.set .logLevel "warn"]).1 (.make .logLevel (some "info"))
    [.make .traceCommands none, .extend 0 .logLevel (some "trace"), .set .logLevel "off"] 0
    .logLevel (by decide +kernel) (by decide +kernel) (by decide +kernel)).trans
    (by decide +kernel)

end TensorMemory.Scene
