import TensorMemory.Environment.Lock
import TensorMemory.Proofs.Environment.Storable

/-!
Calls under the lock. A call that panics frees the lock before a guard takes it once more, so none
waits for ever. The panic leaves a mark on the lock that nobody minds, and each deed comes to what it
comes to without a lock.
-/

namespace TensorMemory

namespace LockedEnvironment

/-! ## Calls on a free lock -/

theorem putBack_eq (env : Environment) (poisoned : Bool) {notes : List (Variable × Option String)}
    (h : ∀ note ∈ notes, Environment.NullFree note.2) :
    putBack ⟨env, true, poisoned⟩ notes =
      (.ok (), ⟨notes.foldl (fun env note => env.put note.1 note.2) env, true, poisoned⟩) := by
  induction notes generalizing env with
  | nil => rfl
  | cons note notes ih =>
    have hassign : assign ⟨env, true, poisoned⟩ note.1 note.2 =
        .ok ⟨env.put note.1 note.2, true, poisoned⟩ := by
      match hvalue : note.2 with
      | none => rfl
      | some text => simp only [assign, env.set_of_not_null _ (h note (.head _) text hvalue)]
    rw [putBack, hassign]
    exact ih _ fun n hn => h n (.tail _ hn)

theorem drop_guard (env : Environment) (poisoned panicking : Bool) {g : Guard} (hg : g.Storable) :
    (free env poisoned).drop panicking (.guard g) =
      .returned () (free (g.restore env) poisoned) := by
  have hnotes : ∀ note ∈ g.saved.reverse, Environment.NullFree note.2 :=
    fun note hnote => hg note (List.mem_reverse.1 hnote)
  simp only [drop, free, acquire, Bool.false_eq_true, if_false, putBack_eq env poisoned hnotes,
    release, Bool.or_false, List.foldl_reverse, Guard.restore]

/-- A panic frees the lock before it comes to a guard, which then puts everything back. -/
theorem unwind_lock_first {α : Type} (env : Environment) (poisoned : Bool) (e : EnvironmentError)
    {guards : List Guard} (h : ∀ g ∈ guards, g.Storable) :
    (unwind ⟨env, true, poisoned⟩ e (.lock :: guards.map .guard) : Ending α) =
      .panicked e (free (guards.foldl (fun env g => g.restore env) env) true) := by
  have hfree : ∀ env, (unwind (free env true) e (guards.map .guard) : Ending α) =
      .panicked e (free (guards.foldl (fun env g => g.restore env) env) true) := by
    induction guards with
    | nil => exact fun env => rfl
    | cons g guards ih =>
      intro env
      rw [List.map_cons, unwind, drop_guard env true true (h g (.head _))]
      exact ih (fun g' hg' => h g' (.tail _ hg')) _
  simp only [unwind, drop, release, Bool.or_true]
  exact hfree env

variable {α : Type} {result : Environment → α} {owned : Environment → List Owned}

theorem change_of_nullFree (env : Environment) (poisoned : Bool) (v : Variable)
    {value : Option String} (h : Environment.NullFree value) :
    (free env poisoned).change v value result owned =
      .returned (result env) (free (env.put v value) poisoned) := by
  cases value with
  | none => simp [change, free, acquire, assign, release, Environment.put, Environment.remove]
  | some text => simp [change, free, acquire, assign, env.set_of_not_null v (h text rfl), release]

theorem change_of_null (env : Environment) (poisoned : Bool) (v : Variable) {text : String}
    (h : '\x00' ∈ text.toList) (guards : List Guard) (howned : owned env = guards.map .guard)
    (hguards : ∀ g ∈ guards, g.Storable) :
    (free env poisoned).change v (some text) result owned =
      .panicked (.nullCharacter v (.text text))
        (free (guards.foldl (fun env g => g.restore env) env) true) := by
  simp only [change, free, acquire, assign, Bool.false_eq_true, if_false, env.set_of_null v h,
    howned]
  exact unwind_lock_first env poisoned _ hguards

theorem override_eq {env : Environment} (henv : env.Storable) (poisoned : Bool) {g : Guard}
    (hg : g.Storable) (v : Variable) (value : Option String) :
    (free env poisoned).override g v value =
      match g.override env v value with
      | (.ok g, env) => .returned g (free env poisoned)
      | (.error e, env) => .panicked e (free env true) := by
  obtain ⟨hfree, hmade⟩ | ⟨text, htext, rfl, hgone⟩ := g.override_outcome env v value
  · rw [hmade]
    exact change_of_nullFree env poisoned v hfree
  · have hnoting : ∀ g' ∈ [g.noting env v], g'.Storable := by
      intro g' hg'
      cases List.mem_singleton.1 hg'
      exact hg.noting henv v
    rw [hgone]
    exact change_of_null env poisoned v htext [g.noting env v] rfl hnoting

end LockedEnvironment

/-- What the caller sees of a deed. -/
inductive Reply where
  | returned (r : Except EnvironmentError Unit)
  | panicked (e : EnvironmentError)

namespace Reply

/-- A value that cannot be stored makes a call panic; one that cannot be formatted is refused. -/
def of {α : Type} : Except EnvironmentError α → Reply
  | .ok _ => .returned (.ok ())
  | .error (.nullCharacter v value) => .panicked (.nullCharacter v value)
  | .error e => .returned (.error e)

def isPanic : Reply → Bool
  | returned _ => false
  | panicked _ => true

end Reply

/-- A scene whose environment has a lock. -/
structure LockedScene where
  locked : LockedEnvironment
  guards : List (Option Guard)

/-- What the caller sees of a call, and where it puts the guard that it may get. Nobody sees more of
a call that waits for ever, or takes the process with it. -/
def Ending.resume {α : Type} (place : Option α → List (Option Guard)) :
    Ending α → Option (Reply × LockedScene)
  | returned value p => some (.returned (.ok ()), ⟨p, place (some value)⟩)
  | panicked e p => some (.panicked e, ⟨p, place none⟩)
  | stuck | aborted => none

namespace LockedScene

def step (s : LockedScene) : Deed → Option (Reply × LockedScene)
  | .set v text => (s.locked.set v text).resume fun _ => s.guards
  | .remove v => (s.locked.remove v).resume fun _ => s.guards
  | .write d value =>
    match d.format value with
    | .error reason => some (.returned (.error (.unwritable d.name reason)), s)
    | .ok text => (s.locked.set d.name text).resume fun _ => s.guards
  | .clear d => (s.locked.remove d.name).resume fun _ => s.guards
  | .make v value => (s.locked.override .empty v value).resume (s.guards ++ [·])
  | .makeTyped d value =>
    match d.format value with
    | .error reason =>
      some (.returned (.error (.unwritable d.name reason)), ⟨s.locked, s.guards ++ [none]⟩)
    | .ok text => (s.locked.guarded d.name text).resume (s.guards ++ [·])
  | .makeUnset d => (s.locked.override .empty d.name none).resume (s.guards ++ [·])
  | .extend i v value =>
    match s.guards[i]?.join with
    | none => some (.returned (.ok ()), s)
    | some g => (s.locked.override g v value).resume (s.guards.set i)
  | .drop i =>
    match s.guards[i]?.join with
    | none => some (.returned (.ok ()), s)
    | some g => (s.locked.drop false (.guard g)).resume fun _ => s.guards.set i none

def run (s : LockedScene) : List Deed → Option (List Reply × LockedScene)
  | [] => some ([], s)
  | deed :: deeds =>
    match s.step deed with
    | none => none
    | some (reply, s) => (s.run deeds).map fun (replies, s) => (reply :: replies, s)

end LockedScene

namespace Scene

/-- The scene with a lock that nobody holds. -/
def withLock (s : Scene) (poisoned : Bool) : LockedScene :=
  ⟨.free s.environment poisoned, s.guards⟩

/-- What a deed answers. -/
def reply (s : Scene) : Deed → Reply
  | .set v text => .of (s.environment.set v text)
  | .write d value => .of (d.set s.environment value)
  | .make v value => .of (Guard.empty.override s.environment v value).1
  | .makeTyped d value => .of (d.guarded s.environment value).1
  | .extend i v value =>
    match s.guard? i with
    | none => .returned (.ok ())
    | some g => .of (g.override s.environment v value).1
  | .remove _ | .clear _ | .makeUnset _ | .drop _ => .returned (.ok ())

def replies (s : Scene) : List Deed → List Reply
  | [] => []
  | deed :: deeds => s.reply deed :: (s.step deed).replies deeds

/-! ## The lock is never in the way -/

/-- A call that owns nothing but the lock leaves everything as it was when it panics. -/
theorem resume_change (s : Scene) (poisoned : Bool) (v : Variable) (text : String) {α : Type}
    (result : Environment → α) (place : Option α → List (Option Guard)) :
    ((s.withLock poisoned).locked.change v (some text) result fun _ => []).resume place =
      some (.of (s.environment.set v text),
        (match s.environment.set v text with
          | .ok changed => mk changed (place (some (result s.environment)))
          | .error _ => mk s.environment (place none)).withLock
            (poisoned || (Reply.of (s.environment.set v text)).isPanic)) := by
  by_cases htext : '\x00' ∈ text.toList
  · rw [withLock, LockedEnvironment.change_of_null s.environment poisoned v htext [] rfl nofun,
      s.environment.set_of_null v htext]
    simp [Ending.resume, Reply.of, Reply.isPanic, withLock]
  · rw [withLock, LockedEnvironment.change_of_nullFree s.environment poisoned v
      (Environment.nullFree_some htext), s.environment.set_of_not_null v htext]
    simp [Ending.resume, Reply.of, Reply.isPanic, withLock]

theorem resume_set (s : Scene) (poisoned : Bool) (v : Variable) (text : String) :
    ((s.withLock poisoned).locked.set v text).resume (fun _ => s.guards) =
      some (.of (s.environment.set v text), (s.plainly (s.environment.set v text)).withLock
        (poisoned || (Reply.of (s.environment.set v text)).isPanic)) := by
  rw [LockedEnvironment.set, resume_change]
  cases s.environment.set v text <;> rfl

theorem resume_remove (s : Scene) (poisoned : Bool) (v : Variable) :
    ((s.withLock poisoned).locked.remove v).resume (fun _ => s.guards) =
      some (.returned (.ok ()),
        (mk (s.environment.remove v) s.guards).withLock (poisoned || false)) := by
  have hremove : (s.withLock poisoned).locked.remove v =
      .returned () (.free (s.environment.remove v) poisoned) :=
    LockedEnvironment.change_of_nullFree s.environment poisoned v Environment.nullFree_none
  rw [hremove, Bool.or_false]
  rfl

theorem resume_override {s : Scene} (h : s.Storable) (poisoned : Bool) {g : Guard}
    (hg : g.Storable) (v : Variable) (value : Option String)
    (place : Option Guard → List (Option Guard)) :
    ((s.withLock poisoned).locked.override g v value).resume place =
      some (.of (g.override s.environment v value).1,
        (mk (g.override s.environment v value).2
          (place (g.override s.environment v value).1.toOption)).withLock
            (poisoned || (Reply.of (g.override s.environment v value).1).isPanic)) := by
  have hoverride := LockedEnvironment.override_eq h.environment poisoned hg v value
  obtain ⟨-, hmade⟩ | ⟨text, -, -, hgone⟩ := g.override_outcome s.environment v value
  · rw [hmade] at hoverride ⊢
    rw [withLock, hoverride]
    simp [Ending.resume, Reply.of, Reply.isPanic, Except.toOption, withLock]
  · rw [hgone] at hoverride ⊢
    rw [withLock, hoverride]
    simp [Ending.resume, Reply.of, Reply.isPanic, Except.toOption, withLock]

theorem resume_guarded (s : Scene) (poisoned : Bool) {α : Type} (d : Descriptor α) {value : α}
    {text : String} (hformat : d.format value = .ok text) :
    ((s.withLock poisoned).locked.guarded d.name text).resume (s.guards ++ [·]) =
      some (.of (d.guarded s.environment value).1, (s.keep (d.guarded s.environment value)).withLock
        (poisoned || (Reply.of (d.guarded s.environment value).1).isPanic)) := by
  have hset : d.set s.environment value = s.environment.set d.name text := by
    rw [Descriptor.set, hformat]
  rw [LockedEnvironment.guarded, resume_change, d.guarded_eq, hset]
  cases s.environment.set d.name text with
  | ok changed => rfl
  | error e => cases e <;> rfl

/-- On a free lock a deed does what it does without one, and the lock is free again. -/
theorem step_withLock {s : Scene} (h : s.Storable) (poisoned : Bool) (deed : Deed) :
    (s.withLock poisoned).step deed =
      some (s.reply deed, (s.step deed).withLock (poisoned || (s.reply deed).isPanic)) := by
  cases deed with
  | set v text => exact s.resume_set poisoned v text
  | remove v => exact s.resume_remove poisoned v
  | write d value =>
    simp only [LockedScene.step, step, reply, Descriptor.set]
    cases d.format value with
    | error reason => simp [Reply.of, Reply.isPanic, plainly]
    | ok text => exact s.resume_set poisoned d.name text
  | clear d => exact s.resume_remove poisoned d.name
  | make v value =>
    rw [step, keep_eq]
    exact resume_override h poisoned Guard.storable_empty v value (s.guards ++ [·])
  | makeTyped d value =>
    cases hformat : d.format value with
    | error reason =>
      simp [LockedScene.step, step, reply, d.guarded_eq, Descriptor.set, hformat, Reply.of,
        Reply.isPanic, keep, withLock]
    | ok text =>
      simp only [LockedScene.step, hformat]
      exact s.resume_guarded poisoned d hformat
  | makeUnset d =>
    exact resume_override h poisoned Guard.storable_empty d.name none (s.guards ++ [·])
  | extend i v value =>
    cases hg : s.guard? i with
    | none =>
      have hgone : (s.withLock poisoned).guards[i]?.join = none := hg
      simp [LockedScene.step, step, reply, hgone, hg, Reply.isPanic]
    | some g =>
      have hheld : (s.withLock poisoned).guards[i]?.join = some g := hg
      simp only [LockedScene.step, step, reply, hheld, hg, settle_eq]
      exact resume_override h poisoned (h.guard i g hg) v value (s.guards.set i)
  | drop i =>
    cases hg : s.guard? i with
    | none =>
      have hgone : (s.withLock poisoned).guards[i]?.join = none := hg
      simp [LockedScene.step, step, reply, hgone, hg, Reply.isPanic]
    | some g =>
      have hheld : (s.withLock poisoned).guards[i]?.join = some g := hg
      have hdrop := LockedEnvironment.drop_guard s.environment poisoned false (h.guard i g hg)
      simp only [LockedScene.step, step, reply, hheld, hg, Reply.isPanic, Bool.or_false]
      rw [withLock, hdrop]
      rfl

/-- No run of deeds waits for ever or takes the process with it, and a panic that has passed makes
no difference to what comes later. -/
theorem run_withLock {s : Scene} (h : s.Storable) (poisoned : Bool) (deeds : List Deed) :
    (s.withLock poisoned).run deeds =
      some (s.replies deeds,
        (s.run deeds).withLock (poisoned || (s.replies deeds).any Reply.isPanic)) := by
  induction deeds generalizing s poisoned with
  | nil => simp [LockedScene.run, replies]
  | cons deed deeds ih =>
    rw [LockedScene.run, step_withLock h poisoned deed]
    simp only [ih (h.step deed), Option.map_some, replies, run_cons, List.any_cons, Bool.or_assoc]

end Scene
end TensorMemory
