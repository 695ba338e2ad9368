import TensorMemory.Session.Basic

/-!
Steps on the tensor of a slot. A step on an empty slot does nothing, and one that is for typed
tensors asks nothing sensible of any other. Views of memory that the tensor
was lent are refused once that memory is gone, since there is nothing left to view.
-/

namespace TensorMemory.Session

/-- Elements from integers, of which the lowest bits count. -/
def elementsOf (dtype : ElementType) (values : Scalars) : List (Element dtype) :=
  values.map (BitVec.ofInt _)

def resolveLent (s : Session) : LentRef → Except Failure (Option LentBuffer)
  | none => .ok none
  | some (buffer, memory) => do
    return some ⟨← s.resolve buffer, ← s.resolve memory⟩

/-- The host-visible memory that a planned tensor is lent. -/
def lentMemory (plan : TensorPlan) : Option Handle :=
  match plan.kind with
  | .device => plan.staging.map (·.memory)
  | .host => plan.primary.map (·.memory)
  | .storage => none

/-- Builds a tensor and puts it into a slot. The slot keeps what it has when the building fails. -/
def construct (s : Session) (i slot : Nat) (lent : Option Handle) (typed : Bool)
    (build : Gateway → Except TensorError Tensor × Gateway) : Answer × Session :=
  if i < s.gateways.length then
    match s.useGateway i (.error .notInitialized) build with
    | (.error e, s) => (.failure (.tensor e), s)
    | (.ok tensor, s) => (.done, s.place slot ⟨i, tensor, lent, typed⟩)
  else (s.answerAbsent i, s)

def runConstruction (s : Session) (i slot : Nat) : Construction → Answer × Session
  | .ofBytes dtype kind size elementSize data =>
    s.construct i slot none false fun g => Tensor.create g data size elementSize dtype kind
  | .ofScalars dtype kind values =>
    s.construct i slot none true fun g => Tensor.ofElements g (elementsOf dtype values) kind
  | .ofPlan plan primary staging =>
    match (do return (← s.resolveLent primary, ← s.resolveLent staging)) with
    | .error f => (.failure f, s)
    | .ok (primary, staging) =>
      let plan := { plan with primary, staging }
      s.construct i slot (lentMemory plan) false plan.build

/-- The memory that the slot's tensor was lent is still there. -/
def isViewable (s : Session) (sl : Slot) : Bool :=
  sl.lent.all fun memory => (s.device? sl.device).any (·.hasMemory memory)

/-- Answers from a view of the tensor on its device. -/
def viewStep (s : Session) (sl : Slot) (f : Device → Answer × Device) : Answer × Session :=
  if s.isViewable sl then s.useDevice sl.device .done f else (.failure .refused, s)

/-- A view that writes nothing when it fails. -/
def writeStep {ε : Type} (s : Session) (sl : Slot) (wrap : ε → Failure)
    (f : Device → Except ε Device) : Answer × Session :=
  s.viewStep sl fun d =>
    match f d with
    | .ok d => (.done, d)
    | .error e => (.failure (wrap e), d)

/-- Runs an operation that changes the tensor of a slot, which has memory of its own after a
success. -/
def rebuildStep (s : Session) (slot : Nat) (sl : Slot)
    (f : Tensor → Gateway → Except TensorError Unit × Tensor × Gateway) : Answer × Session :=
  let (r, tensor, s) := match s.useGateway sl.device (.ok (), sl.tensor) fun g =>
      let (r, tensor, g) := f sl.tensor g
      ((r, tensor), g) with
    | ((r, tensor), s) => (r, tensor, s)
  let lent := if r.isOk then none else sl.lent
  (.ofUnit .tensor r, { s with slots := s.slots.insert slot { sl with tensor, lent } })

/-- Records into a command buffer of the tensor's device. -/
def recordStep (s : Session) (sl : Slot) (commandBuffer : HandleRef)
    (f : Gateway → Handle → Except TensorError Unit × Gateway) : Answer × Session :=
  match s.resolve commandBuffer with
  | .error e => (.failure e, s)
  | .ok commandBuffer =>
    s.useGateway sl.device .done fun g =>
      let (r, g) := f g commandBuffer
      (.ofUnit .tensor r, g)

/-- A step on the tensor that a slot holds. -/
def tensorStep (s : Session) (slot : Nat) (sl : Slot) : TensorStep → Answer × Session
  | .toTyped dtype =>
    match sl.tensor.ofType dtype with
    | .ok _ => (.done, { s with slots := s.slots.insert slot { sl with typed := true } })
    | .error e =>
      (.failure (.tensor e), { s with slots := s.slots.erase slot }.dropTensor sl)
  | .toPlain => (.done, { s with slots := s.slots.insert slot { sl with typed := false } })
  | .inspect => (.done, s)
  | .describe =>
    let text := sl.tensor.describe
    (.text (if sl.typed then "TensorT(" ++ text ++ ")" else text), s)
  | .destroy =>
    let (tensor, s) := s.useGateway sl.device sl.tensor fun g => sl.tensor.destroy g
    (.done, s.setTensor slot tensor)
  | .drop => (.done, { s with slots := s.slots.erase slot }.dropTensor sl)
  | .rebuild data size elementSize =>
    s.rebuildStep slot sl fun t g => t.rebuild g data size elementSize
  | .rebuildScalars values =>
    s.rebuildStep slot sl fun t g => t.rebuildElements g (elementsOf t.dtype values)
  | .descriptor =>
    (.ofResult .tensor (fun (buffer, offset, range) => .numbers [buffer, offset, range])
      sl.tensor.descriptor, s)
  | .elements dtype =>
    let dtype := dtype.getD sl.tensor.dtype
    s.viewStep sl fun d => (.ofResult .tensor (.elements dtype) (sl.tensor.elements d dtype), d)
  | .edit dtype edits =>
    let dtype := dtype.getD sl.tensor.dtype
    s.viewStep sl fun d =>
      match sl.tensor.viewMut dtype with
      | .error e => (.failure (.tensor e), d)
      | .ok v =>
        let d := edits.foldl (fun d (i, x) => v.set d i (BitVec.ofInt _ x)) d
        (.elements dtype (v.elements d), d)
  | .overwrite dtype values =>
    let dtype := dtype.getD sl.tensor.dtype
    s.writeStep sl .tensor fun d => sl.tensor.overwrite d (elementsOf dtype values)
  | .overwriteBytes data => s.writeStep sl .tensor fun d => sl.tensor.overwriteBytes d data
  | .get index =>
    s.viewStep sl fun d =>
      (.ofResult .index (.element sl.tensor.dtype) (sl.tensor.get d index), d)
  | .put index value =>
    s.writeStep sl .index fun d => sl.tensor.put d index (BitVec.ofInt _ value)
  | .copyFrom source commandBuffer =>
    match s.slots.get? source with
    | none => (.done, s)
    | some other =>
      s.recordStep sl commandBuffer fun g commandBuffer =>
        sl.tensor.recordCopyOf other.tensor g s.tracesCommands commandBuffer
  | .upload commandBuffer scope =>
    s.recordStep sl commandBuffer fun g commandBuffer =>
      sl.tensor.recordUpload g s.tracesCommands commandBuffer (scope.getD .shaderRead)
  | .download commandBuffer scope =>
    s.recordStep sl commandBuffer fun g commandBuffer =>
      sl.tensor.recordDownload g s.tracesCommands commandBuffer (scope.getD .shaderWrite)
  | .primaryBarrier commandBuffer source target =>
    s.recordStep sl commandBuffer fun g commandBuffer =>
      sl.tensor.recordPrimaryBarrier g s.tracesCommands commandBuffer source target
  | .stagingBarrier commandBuffer source target =>
    s.recordStep sl commandBuffer fun g commandBuffer =>
      sl.tensor.recordStagingBarrier g s.tracesCommands commandBuffer source target

def runTensorStep (s : Session) (slot : Nat) (step : TensorStep) : Answer × Session :=
  match s.slots.get? slot with
  | some sl =>
    if step.isTyped && !sl.typed then (.failure .malformed, s) else s.tensorStep slot sl step
  | none => (.done, s)

end TensorMemory.Session
