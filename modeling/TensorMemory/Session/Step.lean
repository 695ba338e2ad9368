import TensorMemory.Session.Failure
import TensorMemory.Tensor.Synchronization

/-!
The steps of a session: what can be asked of its devices, its tensors, its environment, its
configuration and its tracing.
-/

namespace TensorMemory

/-- How a step names a handle: outright, by a name that an earlier step bound, or as the primary
buffer of the tensor in a slot. -/
inductive HandleRef where
  | literal (handle : Handle)
  | named (name : String)
  | primaryOf (slot : Nat)
  deriving DecidableEq, Repr

/-- Element values as integers; a value of a floating type is its bit pattern. -/
abbrev Scalars := List Int

/-- A request to a device that does not go through tensor code. -/
inductive DeviceStep where
  | setFaults (faults : Faults)
  | limitAllocations (count : Nat)
  | newCommandBuffer
  | recorded (commandBuffer : HandleRef)
  | submit (commandBuffer : HandleRef)
  | write (buffer : HandleRef) (data : Block)
  | read (buffer : HandleRef) (length : Nat)
  | createBound (size : Nat) (usage flags : Mask)
  | createBuffer (size : Nat) (usage : Mask)
  | allocate (size typeIndex : Nat)
  | requirements (buffer : HandleRef)
  | bind (buffer memory : HandleRef) (offset : Nat)
  | map (memory : HandleRef) (offset size : Nat)
  | unmap (memory : HandleRef)
  | freeMemory (memory : HandleRef)
  | destroyBuffer (buffer : HandleRef)
  | copy (commandBuffer source target : HandleRef) (regions : List CopyRegion)
  | barrier (commandBuffer : HandleRef) (sourceStage targetStage : Mask)
      (barriers : List (HandleRef × BufferBarrier))
  | recordBarrier (commandBuffer buffer : HandleRef) (size : Nat) (source target : SyncScope)
  | liveness (buffer memory : Option HandleRef)

/-- A resource lent to a tensor, by reference. -/
abbrev LentRef := Option (HandleRef × HandleRef)

/-- How a tensor comes into a slot. -/
inductive Construction where
  | ofBytes (dtype : ElementType) (kind : Placement) (size elementSize : Nat) (data : Block)
  | ofScalars (dtype : ElementType) (kind : Placement) (values : Scalars)
  | ofPlan (plan : TensorPlan) (primary staging : LentRef)

/-- A request to a tensor. Where an element type is missing the tensor's own is meant. -/
inductive TensorStep where
  | toTyped (dtype : ElementType)
  | toPlain
  | inspect
  | describe
  | destroy
  | drop
  | rebuild (data : Block) (size elementSize : Nat)
  | rebuildScalars (values : Scalars)
  | descriptor
  | elements (dtype : Option ElementType)
  | edit (dtype : Option ElementType) (edits : List (Nat × Int))
  | overwrite (dtype : Option ElementType) (values : Scalars)
  | overwriteBytes (data : Block)
  | get (index : Nat)
  | put (index : Nat) (value : Int)
  | copyFrom (source : Nat) (commandBuffer : HandleRef)
  | upload (commandBuffer : HandleRef) (scope : Option SyncScope)
  | download (commandBuffer : HandleRef) (scope : Option SyncScope)
  | primaryBarrier (commandBuffer : HandleRef) (source target : SyncScope)
  | stagingBarrier (commandBuffer : HandleRef) (source target : SyncScope)

/-- Steps that take the tensor's own element type, which only a typed tensor offers. -/
def TensorStep.isTyped : TensorStep → Bool
  | rebuildScalars _ | elements none | edit none _ | overwrite none _ | get _ | put .. => true
  | _ => false

/-- The value of a typed variable. -/
inductive Setting where
  | level (level : Level)
  | path (path : NativeText)
  | flag (flag : Bool)
  deriving DecidableEq, Repr

inductive EnvironmentStep where
  | key (v : Variable)
  | setRaw (v : Variable) (value : String)
  | setBytes (v : Variable) (value : Bytes)
  | remove (v : Variable)
  | getRaw (v : Variable)
  | isSet
  | get (v : Variable)
  | set (v : Variable) (value : Setting)
  | unset (v : Variable)
  | guardTyped (id : Nat) (v : Variable) (value : Setting)
  | guardUnset (id : Nat) (v : Variable)
  | guardChain (id : Nat) (chain : List (Variable × Option String))
  | guardValue (id : Nat)
  | guardDrop (id : Nat)
  | dump

inductive ConfigurationStep where
  | ofEnvironment
  | default
  | request (request : ConfigurationRequest)
  | demand
  | stored
  | tracesCommands

inductive TracingStep where
  | enter (name : String) (level : Level)
  | leave
  | metric (text : String)
  | emit (event : Event)
  | install (configuration : Configuration)
  | installFromEnvironment
  | printed
  | file (name : String)

inductive Step where
  /-- The handles that the step yields are bound to the names in order. -/
  | device (index : Nat) (names : List String) (step : DeviceStep)
  | construct (device slot : Nat) (construction : Construction)
  | tensor (slot : Nat) (step : TensorStep)
  | environment (step : EnvironmentStep)
  | configuration (step : ConfigurationStep)
  | tracing (step : TracingStep)
  /-- A request that does not read as any of the above. It changes nothing and answers why. -/
  | invalid (failure : Failure)

/-- The slot that a step works on. -/
def Step.slot? : Step → Option Nat
  | construct _ slot _ => some slot
  | tensor slot _ => some slot
  | _ => none

end TensorMemory
