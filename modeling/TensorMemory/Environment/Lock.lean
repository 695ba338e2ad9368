import TensorMemory.Environment.Guard

/-!
The lock on the environment. A call takes it for every change, and when the change cannot be made
the call panics: it drops what it owns, the youngest first. A guard takes the lock once more to put
back what it has noted.
-/

namespace TensorMemory

structure LockedEnvironment where
  environment : Environment
  held : Bool
  /-- A panic has passed while the lock was held. -/
  poisoned : Bool

/-- What a call comes to. -/
inductive Ending (α : Type) where
  | returned (value : α) (after : LockedEnvironment)
  | panicked (e : EnvironmentError) (after : LockedEnvironment)
  /-- The call waits for a lock that it holds itself. -/
  | stuck
  /-- Something panics while a panic is passing. -/
  | aborted

/-- What a call owns while it runs. -/
inductive Owned where
  | lock
  | guard (g : Guard)

namespace LockedEnvironment

/-- Nobody holds the lock. -/
def free (environment : Environment) (poisoned : Bool) : LockedEnvironment :=
  ⟨environment, false, poisoned⟩

/-- Takes the lock, whether it is poisoned or not. -/
def acquire (p : LockedEnvironment) : Option LockedEnvironment :=
  if p.held then none else some { p with held := true }

def release (p : LockedEnvironment) (panicking : Bool) : LockedEnvironment :=
  { p with held := false, poisoned := p.poisoned || panicking }

/-- Sets a variable, or removes it. Whoever calls this holds the lock. -/
def assign (p : LockedEnvironment) (v : Variable) :
    Option String → Except EnvironmentError LockedEnvironment
  | none => .ok { p with environment := p.environment.remove v }
  | some text =>
    match p.environment.set v text with
    | .ok environment => .ok { p with environment }
    | .error e => .error e

/-- Puts notes back one after another. -/
def putBack (p : LockedEnvironment) :
    List (Variable × Option String) → Except EnvironmentError Unit × LockedEnvironment
  | [] => (.ok (), p)
  | (v, value) :: notes =>
    match p.assign v value with
    | .ok p => p.putBack notes
    | .error e => (.error e, p)

/-- Drops what a call owns. A guard takes the lock and puts its notes back from the last to the
first. -/
def drop (p : LockedEnvironment) (panicking : Bool) : Owned → Ending Unit
  | .lock => .returned () (p.release panicking)
  | .guard g =>
    match p.acquire with
    | none => .stuck
    | some p =>
      match p.putBack g.saved.reverse with
      | (.ok (), p) => .returned () (p.release false)
      | (.error e, p) => if panicking then .aborted else .panicked e (p.release true)

/-- Drops all that a call owns, and the panic passes on. -/
def unwind {α : Type} (p : LockedEnvironment) (e : EnvironmentError) : List Owned → Ending α
  | [] => .panicked e p
  | o :: rest =>
    match p.drop true o with
    | .returned () p => p.unwind e rest
    | .stuck => .stuck
    | .panicked .. | .aborted => .aborted

/-- Changes a variable under the lock. What the call returns, and what it owns besides the lock,
depends on the environment that it found. -/
def change {α : Type} (p : LockedEnvironment) (v : Variable) (value : Option String)
    (result : Environment → α) (owned : Environment → List Owned) : Ending α :=
  match p.acquire with
  | none => .stuck
  | some p =>
    match p.assign v value with
    | .ok changed => .returned (result p.environment) (changed.release false)
    | .error e => p.unwind e (.lock :: owned p.environment)

def set (p : LockedEnvironment) (v : Variable) (text : String) : Ending Unit :=
  p.change v (some text) (fun _ => ()) fun _ => []

def remove (p : LockedEnvironment) (v : Variable) : Ending Unit :=
  p.change v none (fun _ => ()) fun _ => []

/-- Sets a variable for as long as a guard is kept. The guard is made only when all is done. -/
def guarded (p : LockedEnvironment) (v : Variable) (text : String) : Ending Guard :=
  p.change v (some text) (Guard.empty.noting · v) fun _ => []

/-- Overrides one more variable. The guard is the call's own until it is returned. -/
def override (p : LockedEnvironment) (g : Guard) (v : Variable) (value : Option String) :
    Ending Guard :=
  p.change v value (g.noting · v) fun env => [.guard (g.noting env v)]

end LockedEnvironment
end TensorMemory
