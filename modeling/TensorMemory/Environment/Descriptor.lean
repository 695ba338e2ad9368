import TensorMemory.Environment.Guard
import TensorMemory.Tracing.Level

/-!
Typed variables: a descriptor pairs a variable with the reading and the writing of its values.
Levels and flags are trimmed before they are read and a path is taken as it stands.
-/

namespace TensorMemory

structure Descriptor (α : Type) where
  name : Variable
  parse : String → Except String α
  format : α → Except String String

namespace Descriptor

variable {α : Type}

/-- The value of the variable, if it is set. -/
def get (d : Descriptor α) (env : Environment) : Except EnvironmentError (Option α) :=
  match env.get d.name with
  | none => .ok none
  | some text =>
    match d.parse text with
    | .ok value => .ok (some value)
    | .error reason => .error (.unreadable d.name text reason)

def set (d : Descriptor α) (env : Environment) (value : α) : Except EnvironmentError Environment :=
  match d.format value with
  | .error reason => .error (.unwritable d.name reason)
  | .ok text => env.set d.name text

def unset (d : Descriptor α) (env : Environment) : Environment := env.remove d.name

/-- Sets the variable for as long as the guard is kept. A value that cannot be written leaves the
environment alone. -/
def guarded (d : Descriptor α) (env : Environment) (value : α) :
    Except EnvironmentError Guard × Environment :=
  match d.format value with
  | .error reason => (.error (.unwritable d.name reason), env)
  | .ok text =>
    match env.set d.name text with
    | .error e => (.error e, env)
    | .ok changed => (.ok ⟨[(d.name, env.get d.name)]⟩, changed)

def guardedUnset (d : Descriptor α) (env : Environment) : Guard × Environment :=
  (⟨[(d.name, env.get d.name)]⟩, env.remove d.name)

end Descriptor

/-- Reads a flag: for each truth value a digit or one of three words, in any letter case. -/
def parseFlag (s : String) : Except String Bool :=
  match Text.lower (Text.trim s) with
  | "1" | "true" | "yes" | "on" => .ok true
  | "0" | "false" | "no" | "off" => .ok false
  | _ => .error "value is not a recognised boolean"

def formatFlag (b : Bool) : String := if b then "true" else "false"

namespace Descriptor

def logLevel : Descriptor Level where
  name := .logLevel
  parse s :=
    match Level.ofText? (Text.trim s) with
    | some level => .ok level
    | none => .error "invalid tracing level"
  format level := .ok level.name

def metricsPath : Descriptor NativeText where
  name := .metricsPath
  parse s := if s.isEmpty then .error "path must not be empty" else .ok (.text s)
  format
    | .text s => .ok s
    | .undecodable _ => .error "path is not valid UTF-8"

def metricsConsole : Descriptor Bool where
  name := .metricsConsole
  parse := parseFlag
  format b := .ok (formatFlag b)

def traceCommands : Descriptor Bool where
  name := .traceCommands
  parse := parseFlag
  format b := .ok (formatFlag b)

end Descriptor
end TensorMemory
