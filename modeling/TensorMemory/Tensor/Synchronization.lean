import TensorMemory.Tensor.Lifecycle

/-!
Recording copies and barriers between a tensor's buffers. Nothing runs here: commands are added to a
command buffer in the order of the calls, and a call that fails adds none. When commands are traced
each of them is announced.
-/

namespace TensorMemory

/-- Access and pipeline stage on one side of a barrier. -/
structure SyncScope where
  access : Mask
  stage : Mask
  deriving DecidableEq, Repr

namespace SyncScope

def transferRead : SyncScope := ⟨AccessFlags.transferRead, StageFlags.transfer⟩
def transferWrite : SyncScope := ⟨AccessFlags.transferWrite, StageFlags.transfer⟩
def shaderRead : SyncScope := ⟨AccessFlags.shaderRead, StageFlags.computeShader⟩
def shaderWrite : SyncScope := ⟨AccessFlags.shaderWrite, StageFlags.computeShader⟩

end SyncScope

namespace Gateway

def announceCommand (g : Gateway) (traced : Bool) (command : String) (commandBuffer : Handle)
    (bytes : Nat) : Gateway :=
  if traced then
    (g.tell (.log ⟨.trace, "vulkanic::sync", some "command recorded",
        [("command", .quoted command), ("command_buffer", .nat commandBuffer),
          ("bytes", .nat bytes)]⟩)).tell
      (.metric (.recorded command (.ofNat commandBuffer) (.ofNat bytes)))
  else g

/-- Records a barrier over the first `size` bytes of a buffer. -/
def addWholeBarrier (g : Gateway) (traced : Bool) (commandBuffer buffer : Handle) (size : Nat)
    (source target : SyncScope) : Gateway :=
  let whole : BufferBarrier :=
    ⟨buffer, source.access, target.access, ignoredFamily, ignoredFamily, 0, size⟩
  (g.addBarrier commandBuffer source.stage target.stage [whole]).announceCommand traced "barrier"
    commandBuffer size

/-- Records a copy of the first `size` bytes. -/
def addWholeCopy (g : Gateway) (traced : Bool) (commandBuffer source target : Handle)
    (size : Nat) : Gateway :=
  (g.addCopy commandBuffer source target [⟨0, 0, size⟩]).announceCommand traced "copy"
    commandBuffer size

end Gateway

/-- A buffer of known usage has the required one; of a borrowed buffer nothing is known. -/
def BackedBuffer.checkUsage (b : BackedBuffer) (required : Mask) : Except TensorError Unit :=
  if b.usage.all (·.contains required) then .ok () else .error (.missingTransferUsage required)

namespace Parts

/-- The buffers and the number of bytes of a copy from `source` into `p`. -/
def copyPlan (p source : Parts) : Except TensorError (Handle × Handle × Nat) := do
  p.checkAttached
  let target ← p.primary
  let origin ← source.primary
  origin.checkUsage UsageFlags.transferSource
  target.checkUsage UsageFlags.transferTarget
  if origin.buffer.handle = target.buffer.handle then
    throw (.overlappingCopy target.buffer.handle)
  return (origin.buffer.handle, target.buffer.handle, min source.byteSize p.byteSize)

/-- Staging and primary buffer of a tensor that has both. -/
def stagedBuffers (p : Parts) (operation : String) : Except TensorError (Handle × Handle) := do
  let staging ← p.staging operation
  p.checkAttached
  let primary ← p.primary
  return (staging.buffer.handle, primary.buffer.handle)

/-- Records a copy of another tensor's primary buffer into this one's, as long as the shorter. -/
def recordCopyOf (p source : Parts) (g : Gateway) (traced : Bool) (commandBuffer : Handle) :
    Except TensorError Unit × Gateway :=
  match p.copyPlan source with
  | .error e => (.error e, g)
  | .ok (origin, target, size) =>
    (.ok (), g.addWholeCopy traced commandBuffer origin target size)

/-- Records the copy from staging to device, then a barrier that makes it available to `scope`. -/
def recordUpload (p : Parts) (g : Gateway) (traced : Bool) (commandBuffer : Handle)
    (scope : SyncScope := .shaderRead) : Except TensorError Unit × Gateway :=
  match p.stagedBuffers "record_copy_from_staging_to_device" with
  | .error e => (.error e, g)
  | .ok (staging, primary) =>
    (.ok (),
      (g.addWholeCopy traced commandBuffer staging primary p.byteSize).addWholeBarrier
        traced commandBuffer primary p.byteSize .transferWrite scope)

/-- Records a barrier that waits for `scope`, then the copy from device to staging. -/
def recordDownload (p : Parts) (g : Gateway) (traced : Bool) (commandBuffer : Handle)
    (scope : SyncScope := .shaderWrite) : Except TensorError Unit × Gateway :=
  match p.stagedBuffers "record_copy_from_device_to_staging" with
  | .error e => (.error e, g)
  | .ok (staging, primary) =>
    (.ok (),
      (g.addWholeBarrier traced commandBuffer primary p.byteSize scope
        .transferRead).addWholeCopy traced commandBuffer primary staging p.byteSize)

/-- The buffer that a barrier on the primary side is for. -/
def primaryTarget (p : Parts) : Except TensorError BackedBuffer := do
  p.checkAttached
  p.primary

/-- The buffer that a barrier on the staging side is for. -/
def stagingTarget (p : Parts) : Except TensorError BackedBuffer := do
  let staging ← p.staging "record_staging_buffer_memory_barrier"
  p.checkAttached
  return staging

def recordPrimaryBarrier (p : Parts) (g : Gateway) (traced : Bool) (commandBuffer : Handle)
    (source target : SyncScope) : Except TensorError Unit × Gateway :=
  match p.primaryTarget with
  | .error e => (.error e, g)
  | .ok primary =>
    (.ok (), g.addWholeBarrier traced commandBuffer primary.buffer.handle p.byteSize source
      target)

def recordStagingBarrier (p : Parts) (g : Gateway) (traced : Bool) (commandBuffer : Handle)
    (source target : SyncScope) : Except TensorError Unit × Gateway :=
  match p.stagingTarget with
  | .error e => (.error e, g)
  | .ok staging =>
    (.ok (), g.addWholeBarrier traced commandBuffer staging.buffer.handle p.byteSize source
      target)

end Parts

namespace Tensor

/-! A tensor answers what its parts do. The equations say so in terms of the tensor. -/

def copyPlan (t source : Tensor) : Except TensorError (Handle × Handle × Nat) :=
  t.parts.copyPlan source.parts

theorem copyPlan_eq (t source : Tensor) : t.copyPlan source = (do
    t.checkAttached
    let target ← t.primary
    let origin ← source.primary
    origin.checkUsage UsageFlags.transferSource
    target.checkUsage UsageFlags.transferTarget
    if origin.buffer.handle = target.buffer.handle then
      throw (.overlappingCopy target.buffer.handle)
    return (origin.buffer.handle, target.buffer.handle, min source.byteSize t.byteSize)) := rfl

def stagedBuffers (t : Tensor) (operation : String) : Except TensorError (Handle × Handle) :=
  t.parts.stagedBuffers operation

def primaryTarget (t : Tensor) : Except TensorError BackedBuffer := t.parts.primaryTarget

def stagingTarget (t : Tensor) : Except TensorError BackedBuffer := t.parts.stagingTarget

def recordCopyOf (t source : Tensor) (g : Gateway) (traced : Bool) (commandBuffer : Handle) :
    Except TensorError Unit × Gateway := t.parts.recordCopyOf source.parts g traced commandBuffer

theorem recordCopyOf_eq (t source : Tensor) (g : Gateway) (traced : Bool)
    (commandBuffer : Handle) : t.recordCopyOf source g traced commandBuffer =
      match t.copyPlan source with
      | .error e => (.error e, g)
      | .ok (origin, target, size) =>
        (.ok (), g.addWholeCopy traced commandBuffer origin target size) := rfl

def recordUpload (t : Tensor) (g : Gateway) (traced : Bool) (commandBuffer : Handle)
    (scope : SyncScope := .shaderRead) : Except TensorError Unit × Gateway :=
  t.parts.recordUpload g traced commandBuffer scope

def recordDownload (t : Tensor) (g : Gateway) (traced : Bool) (commandBuffer : Handle)
    (scope : SyncScope := .shaderWrite) : Except TensorError Unit × Gateway :=
  t.parts.recordDownload g traced commandBuffer scope

def recordPrimaryBarrier (t : Tensor) (g : Gateway) (traced : Bool) (commandBuffer : Handle)
    (source target : SyncScope) : Except TensorError Unit × Gateway :=
  t.parts.recordPrimaryBarrier g traced commandBuffer source target

def recordStagingBarrier (t : Tensor) (g : Gateway) (traced : Bool) (commandBuffer : Handle)
    (source target : SyncScope) : Except TensorError Unit × Gateway :=
  t.parts.recordStagingBarrier g traced commandBuffer source target

end Tensor
end TensorMemory
