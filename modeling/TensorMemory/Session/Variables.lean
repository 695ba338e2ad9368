import TensorMemory.Session.Basic

/-!
Steps on the environment: variables raw and typed, and the guards that a session keeps under
numbers.
-/

namespace TensorMemory.Session

/-- A descriptor joined with the setting that its values are. -/
structure TypedVariable where
  {α : Type}
  descriptor : Descriptor α
  wrap : α → Setting
  unwrap? : Setting → Option α

def typedVariable : Variable → TypedVariable
  | .logLevel => ⟨.logLevel, .level, fun | .level l => some l | _ => none⟩
  | .metricsPath => ⟨.metricsPath, .path, fun | .path p => some p | _ => none⟩
  | .metricsConsole => ⟨.metricsConsole, .flag, fun | .flag b => some b | _ => none⟩
  | .traceCommands => ⟨.traceCommands, .flag, fun | .flag b => some b | _ => none⟩

/-- Takes over the environment of an operation that may fail, after which it stays as it was. -/
def changeEnvironment (s : Session) : Except EnvironmentError Environment → Answer × Session
  | .ok environment => (.done, { s with environment })
  | .error e => (.failure (.environment e), s)

/-- Restores the guard under a number and forgets it. -/
def dropGuard (s : Session) (id : Nat) : Session :=
  match s.guards.get? id with
  | some held =>
    { s with
      guards := s.guards.erase id
      environment := held.guard.restore s.environment }
  | none => s

/-- Keeps a guard that was made. The one that had its number is restored after the new one was made,
and stays where it is when none was. -/
def keepGuard (s : Session) (id : Nat) (value : Option Setting) :
    Except EnvironmentError Guard × Environment → Answer × Session
  | (.error e, environment) => (.failure (.environment e), { s with environment })
  | (.ok guard, environment) =>
    let s := { s with environment }.dropGuard id
    (.done, { s with guards := s.guards.insert id ⟨guard, value⟩ })

def runEnvironmentStep (s : Session) : EnvironmentStep → Answer × Session
  | .key v => (.text v.key, s)
  | .setRaw v value => s.changeEnvironment (s.environment.set v value)
  | .setBytes v value => s.changeEnvironment (s.environment.store v (.ofBytes value))
  | .remove v => (.done, { s with environment := s.environment.remove v })
  | .getRaw v => (.optionalText (s.environment.get v), s)
  | .isSet => (.flag (s.environment.isSet .traceCommands), s)
  | .get v =>
    let t := typedVariable v
    (.ofResult .environment (fun value => .setting (value.map t.wrap))
      (t.descriptor.get s.environment), s)
  | .set v value =>
    let t := typedVariable v
    match t.unwrap? value with
    | some value => s.changeEnvironment (t.descriptor.set s.environment value)
    | none => (.failure .malformed, s)
  | .unset v =>
    (.done, { s with environment := (typedVariable v).descriptor.unset s.environment })
  | .guardTyped id v value =>
    let t := typedVariable v
    match t.unwrap? value with
    | some a => s.keepGuard id (some value) (t.descriptor.guarded s.environment a)
    | none => (.failure .malformed, s)
  | .guardUnset id v =>
    let (guard, environment) := (typedVariable v).descriptor.guardedUnset s.environment
    s.keepGuard id none (.ok guard, environment)
  | .guardChain id chain => s.keepGuard id none (Guard.ofChain s.environment chain)
  | .guardValue id =>
    match s.guards.get? id with
    | some held => (.setting held.value, s)
    | none => (.done, s)
  | .guardDrop id => (.done, s.dropGuard id)
  | .dump => (.dump s.environment.dump, s)

end TensorMemory.Session
