import TensorMemory.Environment.NativeText
import TensorMemory.Environment.Variable

/-!
Environments: what each variable holds, if anything. A value that forms no text reads as absent, and
one that contains a null character cannot be stored.
-/

namespace TensorMemory

inductive EnvironmentError where
  | unreadable (name : Variable) (value reason : String)
  | unwritable (name : Variable) (reason : String)
  /-- The value contains a null character, which no environment can hold. -/
  | nullCharacter (name : Variable) (value : NativeText)
  deriving DecidableEq, Repr

namespace EnvironmentError

def message : EnvironmentError → String
  | unreadable name value reason =>
    "failed to parse environment variable " ++ name.key ++ " from '" ++ value ++ "': " ++ reason
  | unwritable name reason => "failed to format environment variable " ++ name.key ++ ": " ++ reason
  | nullCharacter name value =>
    "failed to set environment variable `" ++ Text.quoted name.key ++ "` to `" ++
      value.quoted ++ "`: file name contained an unexpected NUL byte"

end EnvironmentError

structure Environment where
  value : Variable → Option NativeText

namespace Environment

def empty : Environment := ⟨fun _ => none⟩

instance : Inhabited Environment := ⟨empty⟩

/-- The text a variable holds. -/
def get (env : Environment) (v : Variable) : Option String := (env.value v).bind NativeText.text?

/-- Sets a variable, or removes it. -/
def assign (env : Environment) (v : Variable) (value : Option NativeText) : Environment :=
  ⟨fun w => if w = v then value else env.value w⟩

def remove (env : Environment) (v : Variable) : Environment := env.assign v none

/-- Sets a variable, unless the value contains a null character. -/
def store (env : Environment) (v : Variable) (value : NativeText) :
    Except EnvironmentError Environment :=
  if value.hasNull then .error (.nullCharacter v value) else .ok (env.assign v (some value))

/-- Sets a variable to a text, or removes it. -/
def put (env : Environment) (v : Variable) (value : Option String) : Environment :=
  env.assign v (value.map .text)

def set (env : Environment) (v : Variable) (value : String) : Except EnvironmentError Environment :=
  env.store v (.text value)

def isSet (env : Environment) (v : Variable) : Bool := (env.get v).isSome

/-- All values, in the order of the variables. -/
def dump (env : Environment) : List (Option NativeText) := Variable.all.map env.value

@[ext] theorem ext {a b : Environment} (h : ∀ v, a.value v = b.value v) : a = b := by
  cases a; cases b
  simp only [mk.injEq]
  exact funext h

@[simp] theorem value_assign (env : Environment) (v w : Variable) (value : Option NativeText) :
    (env.assign v value).value w = if w = v then value else env.value w := rfl

end Environment
end TensorMemory
