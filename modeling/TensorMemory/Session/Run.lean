import TensorMemory.Session.Devices
import TensorMemory.Session.Observation
import TensorMemory.Session.Tensors
import TensorMemory.Session.Variables

/-!
Running sessions. A step answers, and is reported together with all that it brought about; at the
end everything that is still held is given back, the tensors first and the guards last.
-/

namespace TensorMemory.Session

def answer (s : Session) : Step → Answer × Session
  | .device i names step => s.runDeviceStep i names step
  | .construct i slot construction => s.runConstruction i slot construction
  | .tensor slot step => s.runTensorStep slot step
  | .environment step => s.runEnvironmentStep step
  | .configuration step => s.runConfigurationStep step
  | .tracing step => s.runTracingStep step
  | .invalid failure => (.failure failure, s)

/-- The session with nothing called, received or logged. -/
def refreshed (s : Session) : Session :=
  { s with calls := [], collector := { s.collector with received := [], logged := [] } }

/-- What a session reports on top of an earlier one. -/
def report (old new : Session) (slot : Option Nat) (answer : Answer) : Report where
  answer
  tensor := slot.bind fun slot => (new.slots.get? slot).map (·.tensor)
  calls := new.calls
  records := new.collector.received
  logs := new.collector.logged
  violations := gained old new (·.violations)
  hazards := gained old new (·.hazards)
  counts := new.counts

/-- Takes a step and reports it, together with the tensor of a watched slot. -/
def step (s : Session) (step : Step) (watched : Option Nat := step.slot?) : Report × Session :=
  let (a, new) := s.refreshed.answer step
  (report s new watched a, new)

/-- Numbers from the lowest to the highest. -/
def ascending (ns : List Nat) : List Nat := ns.mergeSort (· ≤ ·)

/-- Drops the tensor of a slot. -/
def dropSlot (s : Session) (slot : Nat) : Session := (s.runTensorStep slot .drop).2

/-- Gives everything back: the tensors while spans are open, then the spans, then the guards. -/
def close (s : Session) : Session :=
  let s := (ascending s.slots.keys).foldl dropSlot s
  let s := { s with collector := { s.collector with spans := [] } }
  (ascending s.guards.keys).foldl dropGuard s

/-- Ends a session and answers with what the environment then holds. -/
def finish (s : Session) : Report × Session :=
  let new := s.refreshed.close
  (report s new none (.dump new.environment.dump), new)

/-- The reports of all steps in order, and of the end. -/
def run (s : Session) : List Step → List Report
  | [] => [s.finish.1]
  | first :: rest =>
    let (r, s) := s.step first
    r :: s.run rest

end TensorMemory.Session
