import TensorMemory.Environment.Basic

/-!
Guards override variables and put them back. What a variable held is noted before each override, and
the notes are played back from the last to the first, so that a variable overridden twice gets what
it held before the first override.
-/

namespace TensorMemory

structure Guard where
  /-- What the variables held, in the order of the overrides. -/
  saved : List (Variable × Option String)
  deriving DecidableEq, Repr

namespace Guard

def empty : Guard := ⟨[]⟩

/-- Puts everything back. -/
def restore (g : Guard) (env : Environment) : Environment :=
  g.saved.foldr (fun s env => env.put s.1 s.2) env

/-- The guard with one more note. -/
def noting (g : Guard) (env : Environment) (v : Variable) : Guard :=
  ⟨g.saved ++ [(v, env.get v)]⟩

/-- Overrides one more variable: with a text, or by removing it. If the text cannot be stored the
guard is given up and everything is put back. -/
def override (g : Guard) (env : Environment) (v : Variable) (value : Option String) :
    Except EnvironmentError Guard × Environment :=
  let g := g.noting env v
  match value with
  | none => (.ok g, env.remove v)
  | some text =>
    match env.set v text with
    | .ok env => (.ok g, env)
    | .error e => (.error e, g.restore env)

/-- Overrides variables one after another. -/
def extend (g : Guard) (env : Environment) :
    List (Variable × Option String) → Except EnvironmentError Guard × Environment
  | [] => (.ok g, env)
  | (v, value) :: rest =>
    match g.override env v value with
    | (.error e, env) => (.error e, env)
    | (.ok g, env) => g.extend env rest

/-- A guard over a chain of overrides. -/
def ofChain (env : Environment) (chain : List (Variable × Option String)) :
    Except EnvironmentError Guard × Environment :=
  empty.extend env chain

end Guard
end TensorMemory
