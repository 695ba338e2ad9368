import TensorMemory.Session.Basic

/-!
Steps on a device. They reach the device itself, so its gateway neither faults nor lists them; only
a recorded barrier takes the way that tensor code takes.
-/

namespace TensorMemory.Session

/-- Answers with handles and binds them to names. -/
def yieldHandles (s : Session) (names : List String) (answer : Handle → Answer) :
    Except Status Handle → Answer × Session
  | .ok h => (answer h, s.bindNames names [h])
  | .error e => (.failure (.status e), s)

/-- The memory is mapped, and not by a step: some tensor needs the mapping. -/
def isHeldByTensor (s : Session) (i : Nat) (memory : Handle) : Bool :=
  ((s.device? i).any (·.isMapped memory)) && !s.mappedByStep.contains (i, memory)

/-- Unmaps or frees a memory, unless that would take it from under a tensor. -/
def takeBack (s : Session) (i : Nat) (memory : Handle) (f : Device → Device) : Answer × Session :=
  if s.isHeldByTensor i memory then (.failure .refused, s)
  else
    let s := { s with mappedByStep := s.mappedByStep.filter (· ≠ (i, memory)) }
    s.useDevice i .done fun d => (.done, f d)

def resolveBarriers (s : Session) :
    List (HandleRef × BufferBarrier) → Except Failure (List BufferBarrier)
  | [] => .ok []
  | (ref, b) :: rest => do
    let buffer ← s.resolve ref
    return { b with buffer } :: (← s.resolveBarriers rest)

/-- The handle of an optional reference; the null handle where there is none. -/
def resolveOptional (s : Session) : Option HandleRef → Except Failure Handle
  | some ref => s.resolve ref
  | none => .ok 0

/-- A step on a device that there is. References that stand for no handle end it before it begins.
-/
def deviceStep (s : Session) (i : Nat) (names : List String) :
    DeviceStep → Except Failure (Answer × Session)
  | .setFaults faults => .ok (s.useGateway i .done fun g => (.done, g.setFaults faults))
  | .limitAllocations count => .ok (s.useDevice i .done fun d => (.done, d.limitAllocations count))
  | .newCommandBuffer =>
    let (h, s) := s.useDevice i 0 (·.newCommandBuffer)
    .ok (.number h, s.bindNames names [h])
  | .recorded commandBuffer => do
    let commandBuffer ← s.resolve commandBuffer
    return (.commands (((s.device? i).map (·.recorded commandBuffer)).getD []), s)
  | .submit commandBuffer => do
    let commandBuffer ← s.resolve commandBuffer
    return s.useGateway i .done fun g =>
      let (r, g) := g.submit commandBuffer
      (.ofUnit .access r, g)
  | .write buffer data => do
    let buffer ← s.resolve buffer
    return s.useDevice i .done fun d =>
      match d.write buffer data with
      | .ok d => (.done, d)
      | .error e => (.failure (.access e), d)
  | .read buffer length => do
    let buffer ← s.resolve buffer
    return s.useDevice i .done fun d =>
      (.ofResult .access (fun read => .bytes read.toBytes) (d.read buffer length), d)
  | .createBound size usage flags =>
    match s.useDevice i (.error .validationFailed) (·.createBound size usage flags) with
    | (.ok (buffer, memory), s) =>
      .ok (.numbers [buffer, memory], s.bindNames names [buffer, memory])
    | (.error e, s) => .ok (.failure (.status e), s)
  | .createBuffer size usage =>
    let (r, s) := s.useDevice i (.error .validationFailed) (·.createBuffer size usage)
    .ok (s.yieldHandles names .number r)
  | .allocate size typeIndex =>
    let (r, s) := s.useDevice i (.error .validationFailed) (·.allocate size typeIndex)
    .ok (s.yieldHandles names .number r)
  | .requirements buffer => do
    let buffer ← s.resolve buffer
    return s.useDevice i .done fun d =>
      let (needs, d) := d.requirements buffer
      (.numbers [needs.size, needs.alignment, needs.typeBits.bits.toNat], d)
  | .bind buffer memory offset => do
    let buffer ← s.resolve buffer
    let memory ← s.resolve memory
    return s.useDevice i .done fun d =>
      let (r, d) := d.bind buffer memory offset
      (.ofUnit .status r, d)
  | .map memory offset size => do
    let memory ← s.resolve memory
    match s.useDevice i (.error .memoryMapFailed) (·.map memory offset size) with
    | (.ok _, s) => return (.done, { s with mappedByStep := (i, memory) :: s.mappedByStep })
    | (.error e, s) => return (.failure (.status e), s)
  | .unmap memory => do
    let memory ← s.resolve memory
    return s.takeBack i memory (·.unmap memory)
  | .freeMemory memory => do
    let memory ← s.resolve memory
    return s.takeBack i memory (·.freeMemory memory)
  | .destroyBuffer buffer => do
    let buffer ← s.resolve buffer
    return s.useDevice i .done fun d => (.done, d.destroyBuffer buffer)
  | .copy commandBuffer source target regions => do
    let commandBuffer ← s.resolve commandBuffer
    let source ← s.resolve source
    let target ← s.resolve target
    return s.useDevice i .done fun d =>
      (.done, d.record commandBuffer (.copy source target regions))
  | .barrier commandBuffer sourceStage targetStage barriers => do
    let commandBuffer ← s.resolve commandBuffer
    let barriers ← s.resolveBarriers barriers
    return s.useDevice i .done fun d =>
      (.done, d.record commandBuffer (.barrier sourceStage targetStage barriers))
  | .recordBarrier commandBuffer buffer size source target => do
    let commandBuffer ← s.resolve commandBuffer
    let buffer ← s.resolve buffer
    return s.useGateway i .done fun g =>
      (.done, g.addWholeBarrier s.tracesCommands commandBuffer buffer size source target)
  | .liveness buffer memory => do
    let buffer ← s.resolveOptional buffer
    let memory ← s.resolveOptional memory
    return s.useDevice i .done fun d =>
      (.liveness (d.hasBuffer buffer) (d.hasMemory memory) (d.isMapped memory), d)

def runDeviceStep (s : Session) (i : Nat) (names : List String) (step : DeviceStep) :
    Answer × Session :=
  if i < s.gateways.length then
    match s.deviceStep i names step with
    | .ok r => r
    | .error f => (.failure f, s)
  else (s.answerAbsent i, s)

end TensorMemory.Session
