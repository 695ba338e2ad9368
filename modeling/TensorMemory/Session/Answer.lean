import TensorMemory.Session.Step

/-!
What the steps of a session answer.
-/

namespace TensorMemory

inductive Answer where
  | done
  | failure (failure : Failure)
  | number (n : Nat)
  | numbers (ns : List Nat)
  | flag (b : Bool)
  | text (s : String)
  | texts (ss : List String)
  | optionalText (s : Option String)
  | bytes (bytes : Bytes)
  | element (dtype : ElementType) (x : Element dtype)
  | elements (dtype : ElementType) (xs : List (Element dtype))
  | commands (cs : List Command)
  | liveness (buffer memory mapped : Bool)
  | configuration (c : Option Configuration)
  | setting (s : Option Setting)
  | dump (values : List (Option NativeText))
  | records (rs : List Record.Written)

namespace Answer

/-- Nothing to say but that it worked, or the failure. -/
def ofUnit {ε : Type} (wrap : ε → Failure) : Except ε Unit → Answer
  | .ok () => done
  | .error e => failure (wrap e)

def ofResult {ε α : Type} (wrap : ε → Failure) (f : α → Answer) : Except ε α → Answer
  | .ok a => f a
  | .error e => failure (wrap e)

end Answer

/-- Live buffers and memories, destroyed buffers and freed memories of a device. -/
structure DeviceCounts where
  liveBuffers : Nat
  liveMemories : Nat
  buffersDestroyed : Nat
  memoriesFreed : Nat
  deriving DecidableEq, Repr

/-- All that a step brought about. -/
structure Report where
  answer : Answer
  /-- The tensor that the step worked on or that is watched, as it is now. -/
  tensor : Option Tensor
  calls : List (Nat × Call)
  records : List Record
  logs : List Event
  violations : List (Nat × Violation)
  hazards : List (Nat × Hazard)
  counts : List DeviceCounts

end TensorMemory
