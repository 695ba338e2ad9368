import TensorMemory.Proofs.Environment.Overrides

/-!
What can happen to an environment: variables are written and removed, raw or through a descriptor,
and guards are made, extended while they are held, and dropped. Guards are numbered as they are
made, and a number stays taken when its guard is gone.
-/

namespace TensorMemory

inductive Deed : Type 1 where
  | set (v : Variable) (text : String)
  | remove (v : Variable)
  | write {α : Type} (d : Descriptor α) (value : α)
  | clear {α : Type} (d : Descriptor α)
  /-- Makes a guard with its first override: by a text, or by a removal. -/
  | make (v : Variable) (value : Option String)
  | makeTyped {α : Type} (d : Descriptor α) (value : α)
  | makeUnset {α : Type} (d : Descriptor α)
  | extend (i : Nat) (v : Variable) (value : Option String)
  | drop (i : Nat)

namespace Deed

/-- No guard takes note of the change. -/
def isPlain : Deed → Bool
  | set .. | remove .. | write .. | clear .. => true
  | make .. | makeTyped .. | makeUnset .. | extend .. | drop .. => false

/-- The number of the guard that is extended or dropped. -/
def target? : Deed → Option Nat
  | extend i .. | drop i => some i
  | _ => none

end Deed

@[ext]
structure Scene where
  environment : Environment
  guards : List (Option Guard)

namespace Scene

/-- No guard has been made yet. -/
def start (env : Environment) : Scene := ⟨env, []⟩

/-- The guard with a number, while it is held. -/
def guard? (s : Scene) (i : Nat) : Option Guard := s.guards[i]?.join

/-- The variables that a guard has overridden so far. -/
def overridden (s : Scene) (i : Nat) : List Variable := ((s.guard? i).getD .empty).overridden

/-- A plain change, unless it is refused. -/
def plainly (s : Scene) : Except EnvironmentError Environment → Scene
  | .ok environment => { s with environment }
  | .error _ => s

/-- Gives the next number to what was to be a guard. -/
def keep (s : Scene) : Except EnvironmentError Guard × Environment → Scene
  | (.ok g, environment) => ⟨environment, s.guards ++ [some g]⟩
  | (.error _, environment) => ⟨environment, s.guards ++ [none]⟩

/-- Puts what became of a guard in its place. -/
def settle (s : Scene) (i : Nat) : Except EnvironmentError Guard × Environment → Scene
  | (.ok g, environment) => ⟨environment, s.guards.set i (some g)⟩
  | (.error _, environment) => ⟨environment, s.guards.set i none⟩

def step (s : Scene) : Deed → Scene
  | .set v text => s.plainly (s.environment.set v text)
  | .remove v => { s with environment := s.environment.remove v }
  | .write d value => s.plainly (d.set s.environment value)
  | .clear d => { s with environment := d.unset s.environment }
  | .make v value => s.keep (Guard.empty.override s.environment v value)
  | .makeTyped d value => s.keep (d.guarded s.environment value)
  | .makeUnset d =>
    let (g, environment) := d.guardedUnset s.environment
    s.keep (.ok g, environment)
  | .extend i v value =>
    match s.guard? i with
    | none => s
    | some g => s.settle i (g.override s.environment v value)
  | .drop i =>
    match s.guard? i with
    | none => s
    | some g => ⟨g.restore s.environment, s.guards.set i none⟩

def run (s : Scene) (deeds : List Deed) : Scene := deeds.foldl step s

@[simp] theorem run_nil (s : Scene) : s.run [] = s := rfl

@[simp] theorem run_cons (s : Scene) (deed : Deed) (deeds : List Deed) :
    s.run (deed :: deeds) = (s.step deed).run deeds := rfl

theorem lt_length {s : Scene} {i : Nat} {g : Guard} (hg : s.guard? i = some g) :
    i < s.guards.length := by
  refine Nat.lt_of_not_le fun hi => ?_
  rw [guard?, List.getElem?_eq_none hi] at hg
  cases hg

theorem guard?_append (s : Scene) (env : Environment) (g : Option Guard) (i : Nat) :
    guard? ⟨env, s.guards ++ [g]⟩ i = if i = s.guards.length then g else s.guard? i := by
  unfold guard?
  obtain hi | rfl | hi := Nat.lt_trichotomy i s.guards.length
  · rw [if_neg (Nat.ne_of_lt hi), List.getElem?_append_left hi]
  · simp
  · rw [if_neg (Nat.ne_of_gt hi), List.getElem?_eq_none (by rwa [List.length_append]),
      List.getElem?_eq_none (Nat.le_of_lt hi)]

theorem guard?_set {s : Scene} {j : Nat} {g : Guard} (hg : s.guard? j = some g) (env : Environment)
    (x : Option Guard) (i : Nat) :
    guard? ⟨env, s.guards.set j x⟩ i = if i = j then x else s.guard? i := by
  unfold guard?
  by_cases hi : i = j
  · subst hi
    simp [List.getElem?_set_self (lt_length hg)]
  · simp [List.getElem?_set_ne (Ne.symm hi), hi]

/-- Dropping a guard that is gone changes nothing, as one without notes would. -/
theorem step_drop (s : Scene) (i : Nat) :
    s.step (.drop i) = ⟨((s.guard? i).getD .empty).restore s.environment, s.guards.set i none⟩ := by
  cases hg : s.guard? i with
  | some g => simp only [step, hg, Option.getD_some]
  | none =>
    have hsame : s.guards.set i none = s.guards := by
      by_cases hi : i < s.guards.length
      · have hnone : s.guards[i] = none := by simpa [guard?, List.getElem?_eq_getElem hi] using hg
        rw [← hnone, List.set_getElem_self]
      · exact List.set_eq_of_length_le (Nat.le_of_not_lt hi)
    simp only [step, hg, hsame]
    rfl

theorem guard?_drop (s : Scene) (i j : Nat) :
    (s.step (.drop i)).guard? j = if j = i then none else s.guard? j := by
  rw [step_drop]
  split
  · next hj =>
    rw [hj, guard?, List.getElem?_set_self']
    cases s.guards[i]? <;> rfl
  · next hj => rw [guard?, List.getElem?_set_ne (Ne.symm hj), guard?]

theorem run_extend_gone (env : Environment) (guards : List (Option Guard))
    (chain : List (Variable × Option String)) :
    run ⟨env, guards ++ [none]⟩ (chain.map fun o => .extend guards.length o.1 o.2) =
      ⟨env, guards ++ [none]⟩ := by
  induction chain with
  | nil => rfl
  | cons o chain ih => simpa [step, guard?] using ih

theorem run_extend (env : Environment) (guards : List (Option Guard)) (g : Guard)
    (chain : List (Variable × Option String)) :
    run ⟨env, guards ++ [some g]⟩ (chain.map fun o => .extend guards.length o.1 o.2) =
      keep ⟨env, guards⟩ (g.extend env chain) := by
  induction chain generalizing env g with
  | nil => rfl
  | cons o chain ih =>
    have hstep : step ⟨env, guards ++ [some g]⟩ (.extend guards.length o.1 o.2) =
        keep ⟨env, guards⟩ (g.override env o.1 o.2) := by
      simp only [step, guard?, List.getElem?_concat_length, Option.join_some]
      cases g.override env o.1 o.2 with
      | mk r env => cases r <;> simp [settle, keep]
    rw [List.map_cons, run_cons, Guard.extend, hstep]
    match g.override env o.1 o.2 with
    | (.ok g', env') => exact ih env' g'
    | (.error _, env') => exact run_extend_gone env' guards chain

/-- A chain of overrides is a guard made with the first of them and extended by all others. -/
theorem run_chain (s : Scene) (v : Variable) (value : Option String)
    (chain : List (Variable × Option String)) :
    s.run (.make v value :: chain.map fun o => .extend s.guards.length o.1 o.2) =
      s.keep (Guard.ofChain s.environment ((v, value) :: chain)) := by
  rw [run_cons, step, Guard.ofChain, Guard.extend]
  match Guard.empty.override s.environment v value with
  | (.ok g, env) => exact run_extend env s.guards g chain
  | (.error _, env) => exact run_extend_gone env s.guards chain

/-- All that a deed can do. -/
inductive Change (s : Scene) (deed : Deed) : Scene → Prop
  | stayed : Change s deed s
  | wrote (hdeed : deed.isPlain = true) (v : Variable) (text : Option String) :
      Change s deed { s with environment := s.environment.put v text }
  | made (v : Variable) (text : Option String) :
      Change s deed ⟨s.environment.put v text,
        s.guards ++ [some (Guard.empty.noting s.environment v)]⟩
  | refused : Change s deed ⟨s.environment, s.guards ++ [none]⟩
  | extended {i : Nat} {g : Guard} (hdeed : deed.target? = some i) (hg : s.guard? i = some g)
      (v : Variable) (text : Option String) :
      Change s deed ⟨s.environment.put v text,
        s.guards.set i (some (g.noting s.environment v))⟩
  | dropped {i : Nat} {g : Guard} (hdeed : deed.target? = some i) (hg : s.guard? i = some g) :
      Change s deed ⟨g.restore s.environment, s.guards.set i none⟩

theorem change_plainly {s : Scene} {deed : Deed} (hdeed : deed.isPlain = true) (v : Variable)
    {r : Except EnvironmentError Environment}
    (hr : (∃ text, r = .ok (s.environment.put v text)) ∨ ∃ e, r = .error e) :
    Change s deed (s.plainly r) := by
  obtain ⟨text, rfl⟩ | ⟨e, rfl⟩ := hr
  · exact .wrote hdeed v text
  · exact .stayed

theorem change_step {s : Scene} (h : s.environment.Textual) (deed : Deed) :
    Change s deed (s.step deed) := by
  cases deed with
  | set v text =>
    exact change_plainly rfl v ((s.environment.set_cases v text).imp_left fun hset => ⟨_, hset⟩)
  | remove v => exact .wrote rfl v none
  | write d value =>
    refine change_plainly rfl d.name ((d.set_cases s.environment value).imp_left ?_)
    rintro ⟨text, -, hset⟩
    exact ⟨_, hset⟩
  | clear d => exact .wrote rfl d.name none
  | make v value =>
    obtain hmade | ⟨e, hmade⟩ := Guard.empty.override_cases h v value
    · rw [step, hmade]
      exact .made v value
    · rw [step, hmade]
      exact .refused
  | makeTyped d value =>
    rw [step, d.guarded_eq]
    obtain ⟨text, -, hset⟩ | ⟨e, hset⟩ := d.set_cases s.environment value
    · rw [hset]
      exact .made d.name (some text)
    · rw [hset]
      exact .refused
  | makeUnset d => exact .made d.name none
  | extend i v value =>
    cases hg : s.guard? i with
    | none =>
      simp only [step, hg]
      exact .stayed
    | some g =>
      simp only [step, hg]
      obtain hmade | ⟨e, hmade⟩ := g.override_cases h v value
      · rw [hmade]
        exact .extended rfl hg v value
      · rw [hmade]
        exact .dropped rfl hg
  | drop i =>
    cases hg : s.guard? i with
    | none =>
      simp only [step, hg]
      exact .stayed
    | some g =>
      simp only [step, hg]
      exact .dropped rfl hg

namespace Change

variable {s t : Scene} {deed : Deed}

theorem textual (hst : Change s deed t) (h : s.environment.Textual) : t.environment.Textual := by
  cases hst with
  | stayed | refused => exact h
  | wrote | made | extended => exact h.put _ _
  | dropped => exact Guard.restore_textual _ h

end Change

theorem run_textual {s : Scene} (h : s.environment.Textual) (deeds : List Deed) :
    (s.run deeds).environment.Textual := by
  induction deeds generalizing s with
  | nil => exact h
  | cons deed deeds ih => exact ih ((change_step h deed).textual h)

/-! ## What a guard keeps -/

theorem guards_plainly (s : Scene) (r : Except EnvironmentError Environment) :
    (s.plainly r).guards = s.guards := by
  cases r <;> rfl

theorem keep_eq (s : Scene) (r : Except EnvironmentError Guard × Environment) :
    s.keep r = ⟨r.2, s.guards ++ [r.1.toOption]⟩ := by
  match r with
  | (.ok _, _) | (.error _, _) => rfl

theorem settle_eq (s : Scene) (i : Nat) (r : Except EnvironmentError Guard × Environment) :
    s.settle i r = ⟨r.2, s.guards.set i r.1.toOption⟩ := by
  match r with
  | (.ok _, _) | (.error _, _) => rfl

theorem length_le_step (s : Scene) (deed : Deed) :
    s.guards.length ≤ (s.step deed).guards.length := by
  cases deed with
  | set | write => simp only [step, guards_plainly, Nat.le_refl]
  | remove | clear => exact Nat.le_refl _
  | make | makeTyped | makeUnset => simp [step, keep_eq]
  | extend i v value =>
    simp only [step]
    split <;> simp [settle_eq]
  | drop i => simp [step_drop]

/-- A guard that is held was held before, or it takes note of one override. -/
theorem held_cases {s : Scene} {deed : Deed} {i : Nat} {g : Guard}
    (hg : (s.step deed).guard? i = some g) :
    s.guard? i = some g ∨ (s.guard? i = none → i = s.guards.length) ∧
      ∃ v, g = ((s.guard? i).getD .empty).noting s.environment v := by
  -- A new guard stands in the next place, which no other guard has held.
  have hkeep : ∀ r, (s.keep r).guard? i = some g →
      (∀ g', r.1.toOption = some g' → ∃ v, g' = Guard.empty.noting s.environment v) →
      s.guard? i = some g ∨ (s.guard? i = none → i = s.guards.length) ∧
        ∃ v, g = ((s.guard? i).getD .empty).noting s.environment v := by
    intro r hr hnote
    rw [keep_eq, guard?_append] at hr
    split at hr
    · next hi =>
      have hnew : s.guard? i = none := by simp [guard?, hi]
      exact .inr ⟨fun _ => hi, by rw [hnew]; exact hnote g hr⟩
    · exact .inl hr
  cases deed with
  | set | write =>
    rw [step, guard?, guards_plainly] at hg
    exact .inl hg
  | remove | clear => exact .inl hg
  | make v value => exact hkeep _ hg fun g' hg' => ⟨v, Guard.override_toOption hg'⟩
  | makeTyped d value => exact hkeep _ hg fun g' hg' => ⟨d.name, d.guarded_toOption hg'⟩
  | makeUnset d => exact hkeep _ hg fun g' hg' => ⟨d.name, (Option.some.inj hg').symm⟩
  | extend j v value =>
    cases hj : s.guard? j with
    | none =>
      simp only [step, hj] at hg
      exact .inl hg
    | some g' =>
      simp only [step, hj] at hg
      rw [settle_eq, guard?_set hj] at hg
      split at hg
      · next hi =>
        subst hi
        rw [hj]
        exact .inr ⟨fun hnone => (Option.some_ne_none _ hnone).elim, v,
          Guard.override_toOption hg⟩
      · exact .inl hg
  | drop j =>
    rw [guard?_drop] at hg
    split at hg
    · cases hg
    · exact .inl hg

/-- A guard that is gone does not come back. -/
theorem gone_step {s : Scene} {i : Nat} (hi : i < s.guards.length) (hs : s.guard? i = none)
    (deed : Deed) : (s.step deed).guard? i = none := by
  rw [Option.eq_none_iff_forall_ne_some]
  intro g hg
  obtain hheld | ⟨hnew, -⟩ := held_cases hg
  · rw [hs] at hheld
    cases hheld
  · exact Nat.ne_of_lt hi (hnew hs)

/-- A guard forgets no note. -/
theorem first?_step {s : Scene} {deed : Deed} {i : Nat} {g g' : Guard} (hg : s.guard? i = some g)
    (hg' : (s.step deed).guard? i = some g') {v : Variable} {text : Option String}
    (hv : g.first? v = some text) : g'.first? v = some text := by
  obtain hheld | ⟨-, w, rfl⟩ := held_cases hg'
  · rw [hg] at hheld
    cases hheld
    exact hv
  · rw [hg, Option.getD_some, Guard.first?_noting, hv, Option.some_or]

/-- The first override of a variable notes what the variable holds. -/
theorem first?_of_overridden {s : Scene} {deed : Deed} {i : Nat} {g : Guard}
    (hg : (s.step deed).guard? i = some g) {v : Variable} (hs : v ∉ s.overridden i)
    (hv : v ∈ g.overridden) : g.first? v = some (s.environment.get v) := by
  obtain hheld | ⟨-, w, rfl⟩ := held_cases hg
  · refine absurd ?_ hs
    rwa [overridden, hheld]
  · rw [overridden, ← Guard.first?_eq_none_iff] at hs
    rw [Guard.overridden_noting, List.mem_append, List.mem_singleton] at hv
    obtain hv | rfl := hv
    · exact absurd hv ((Guard.first?_eq_none_iff _ _).1 hs)
    · rw [Guard.first?_noting, hs, Option.none_or, if_pos rfl]

theorem run_gone {s : Scene} {i : Nat} (hi : i < s.guards.length) (hs : s.guard? i = none)
    (deeds : List Deed) : (s.run deeds).guard? i = none := by
  induction deeds generalizing s with
  | nil => exact hs
  | cons deed deeds ih =>
    exact ih (Nat.lt_of_lt_of_le hi (s.length_le_step deed)) (gone_step hi hs deed)

theorem run_first? {s : Scene} {i : Nat} {g g' : Guard} (hg : s.guard? i = some g)
    {deeds : List Deed} (hg' : (s.run deeds).guard? i = some g') {v : Variable}
    {text : Option String} (hv : g.first? v = some text) : g'.first? v = some text := by
  induction deeds generalizing s g with
  | nil =>
    rw [run_nil, hg] at hg'
    cases hg'
    exact hv
  | cons deed deeds ih =>
    cases hnext : (s.step deed).guard? i with
    | none =>
      have hi := Nat.lt_of_lt_of_le (lt_length hg) (s.length_le_step deed)
      rw [run_cons, run_gone hi hnext] at hg'
      cases hg'
    | some g₁ => exact ih hnext hg' (first?_step hg hnext hv)

/-- A guard notes what a variable reads as when it first overrides it, and keeps the note. -/
theorem first?_of_first {s : Scene} {deed : Deed} {later : List Deed} {i : Nat} {v : Variable}
    {g : Guard} (hbefore : v ∉ s.overridden i) (hafter : v ∈ (s.step deed).overridden i)
    (hg : ((s.step deed).run later).guard? i = some g) :
    g.first? v = some (s.environment.get v) := by
  cases hmade : (s.step deed).guard? i with
  | none => simp [overridden, hmade, Guard.overridden, Guard.empty] at hafter
  | some g' =>
    rw [overridden, hmade] at hafter
    exact run_first? hmade hg (first?_of_overridden hmade hbefore hafter)

end Scene
end TensorMemory
