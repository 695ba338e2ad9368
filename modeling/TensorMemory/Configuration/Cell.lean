import TensorMemory.Configuration.Basic

/-!
The cell of the global configuration, which is written at most once. A request goes through stages,
each of which looks at the cell or at the environment once, so that requests of several callers can
be taken in any interleaving; `ConfigurationRequest.run` takes one without interruption.
-/

namespace TensorMemory

/-- The global configuration, if it has been stored. -/
abbrev ConfigurationCell := Option Configuration

inductive ConfigurationRequest where
  | initialise (configuration : Configuration)
  | storeFromEnvironment
  | getOrLoad
  deriving DecidableEq, Repr

/-- How far a request has come. -/
inductive ConfigurationStage where
  /-- Looks whether a configuration is stored. -/
  | looking
  /-- Reads the environment. `fresh` requests demand that they store it themselves. -/
  | loading (fresh : Bool)
  | storing (fresh : Bool) (configuration : Configuration)
  /-- Reads what is stored now. -/
  | fetching
  | finished (result : Except ConfigurationError Configuration)

namespace ConfigurationStage

def ofRequest : ConfigurationRequest → ConfigurationStage
  | .initialise c => storing true c
  | .storeFromEnvironment => loading true
  | .getOrLoad => looking

/-- One step of a request. -/
def advance (env : Environment) (cell : ConfigurationCell) :
    ConfigurationStage → ConfigurationStage × ConfigurationCell
  | looking =>
    match cell with
    | some c => (finished (.ok c), cell)
    | none => (loading false, cell)
  | loading fresh =>
    match Configuration.ofEnvironment env with
    | .ok c => (storing fresh c, cell)
    | .error e => (finished (.error e), cell)
  | storing fresh c =>
    match cell with
    | none => (fetching, some c)
    | some _ => (if fresh then finished (.error .alreadyStored) else fetching, cell)
  | fetching =>
    match cell with
    | some c => (finished (.ok c), cell)
    | none => (finished (.error .alreadyStored), cell)
  | finished result => (finished result, cell)

def result? : ConfigurationStage → Option (Except ConfigurationError Configuration)
  | finished r => some r
  | _ => none

/-- Steps until a request is finished: no more than looking, loading, storing and fetching. -/
def longest : Nat := 4

def advanceMany (env : Environment) :
    Nat → ConfigurationStage × ConfigurationCell → ConfigurationStage × ConfigurationCell
  | 0, s => s
  | n + 1, (stage, cell) => advanceMany env n (stage.advance env cell)

end ConfigurationStage

namespace ConfigurationRequest

open ConfigurationStage in
theorem finishes (r : ConfigurationRequest) (env : Environment) (cell : ConfigurationCell) :
    ((advanceMany env longest (ofRequest r, cell)).1.result?).isSome = true := by
  cases r with
  | initialise c => cases cell <;> rfl
  | storeFromEnvironment =>
    cases cell <;> cases h : Configuration.ofEnvironment env <;>
      simp [advanceMany, longest, ofRequest, advance, result?, h]
  | getOrLoad =>
    cases cell <;> cases h : Configuration.ofEnvironment env <;>
      simp [advanceMany, longest, ofRequest, advance, result?, h]

/-- The whole of a request, with no other in between. -/
def run (r : ConfigurationRequest) (env : Environment) (cell : ConfigurationCell) :
    Except ConfigurationError Configuration × ConfigurationCell :=
  let s := ConfigurationStage.advanceMany env ConfigurationStage.longest
    (ConfigurationStage.ofRequest r, cell)
  (s.1.result?.get (r.finishes env cell), s.2)

end ConfigurationRequest

/-- Commands are traced as the stored configuration says and, while there is none, as the
environment does. A value that does not read counts as off. -/
def tracesCommands (env : Environment) (cell : ConfigurationCell) : Bool :=
  match cell with
  | some c => c.traceCommands
  | none =>
    match Descriptor.traceCommands.get env with
    | .ok value => value.getD false
    | .error _ => false

/-- What asking for the configuration says before one is stored. -/
def unsetConfigurationMessage : String := "AppConfig not initialised"

end TensorMemory
