import TensorMemory.Device.Basic
import TensorMemory.Status

/-!
Creating, binding, mapping and releasing. Every operation returns the device with its result; one
that fails leaves buffers, memories and bindings as they were and at most notes a violation. Only
`createBound`, which is several in a row, keeps those that went before the failure.
-/

namespace TensorMemory

structure Requirements where
  size : Nat
  alignment : Nat
  typeBits : Mask
  deriving DecidableEq, Repr

namespace Device

def alignmentBytes : Nat := 64

def createBuffer (d : Device) (size : Nat) (usage : Mask) : Except Status Handle × Device :=
  if size = 0 then (.error .validationFailed, d.violate .emptyBuffer)
  else
    let handle := d.issued + 1
    (.ok handle,
      { d with issued := handle, buffers := d.buffers.insert handle ⟨size, usage, none⟩ })

/-- Allocates zeroed memory. The missing type is noticed before the spent budget. -/
def allocate (d : Device) (size typeIndex : Nat) : Except Status Handle × Device :=
  if d.properties.count ≤ typeIndex then
    (.error .validationFailed, d.violate (.missingMemoryType typeIndex))
  else if d.allocationBudget = some 0 then (.error .outOfDeviceMemory, d)
  else
    let handle := d.issued + 1
    (.ok handle,
      { d with
        issued := handle
        allocationBudget := d.allocationBudget.map (· - 1)
        memories := d.memories.insert handle ⟨.zeros size, typeIndex, false⟩ })

/-- What memory a buffer needs: its size rounded up to the alignment, of any type. -/
def requirements (d : Device) (buffer : Handle) : Requirements × Device :=
  match d.buffers.get? buffer with
  | none => (⟨0, 0, .empty⟩, d.violate (.requirementsOfUnknown buffer))
  | some b =>
    (⟨(b.size + alignmentBytes - 1) / alignmentBytes * alignmentBytes, alignmentBytes,
      d.properties.typeBits⟩, d)

def bind (d : Device) (buffer memory : Handle) (offset : Nat) : Except Status Unit × Device :=
  match d.memories.get? memory with
  | none => (.error .validationFailed, d.violate (.bindToUnknown memory))
  | some m =>
    match d.buffers.get? buffer with
    | none => (.error .validationFailed, d.violate (.bindOfUnknown buffer))
    | some b =>
      if b.binding.isSome then (.error .validationFailed, d.violate (.boundTwice buffer))
      else if m.contents.size < offset + b.size then (.error .outOfDeviceMemory, d)
      else
        (.ok (), { d with buffers := d.buffers.modify buffer fun b =>
          { b with binding := some ⟨memory, offset⟩ } })

/-- Maps a range of a memory that the host can see and that is not mapped yet. -/
def map (d : Device) (memory : Handle) (offset size : Nat) : Except Status Place × Device :=
  match d.memories.get? memory with
  | none => (.error .memoryMapFailed, d)
  | some m =>
    if m.mapped || !(d.properties.slot m.typeIndex).flags.contains MemoryFlags.hostVisible then
      (.error .memoryMapFailed, d)
    else
      let size := if size = wholeSize then m.contents.size - offset else size
      if m.contents.size < offset + size then (.error .memoryMapFailed, d)
      else
        (.ok ⟨memory, offset⟩,
          { d with memories := d.memories.modify memory fun m => { m with mapped := true } })

def unmap (d : Device) (memory : Handle) : Device :=
  if d.isMapped memory then
    { d with memories := d.memories.modify memory fun m => { m with mapped := false } }
  else d.violate (.notMapped memory)

/-- The null handle is passed over. -/
def destroyBuffer (d : Device) (buffer : Handle) : Device :=
  if buffer = 0 then d
  else if d.hasBuffer buffer then
    { d with buffers := d.buffers.erase buffer, buffersDestroyed := d.buffersDestroyed + 1 }
  else d.violate (.destroyOfUnknown buffer)

/-- A live buffer is bound to the memory. -/
def isBoundTo (d : Device) (memory : Handle) : Bool :=
  d.buffers.any fun _ b => b.binding.any (·.memory = memory)

/-- Memory is freed also while a buffer is bound to it, but not silently. The null handle is passed
over. -/
def freeMemory (d : Device) (memory : Handle) : Device :=
  if memory = 0 then d
  else
    let d := if d.isBoundTo memory then d.violate (.freedWhileBound memory) else d
    if d.hasMemory memory then
      { d with memories := d.memories.erase memory, memoriesFreed := d.memoriesFreed + 1 }
    else d.violate (.freeOfUnknown memory)

def newCommandBuffer (d : Device) : Handle × Device :=
  let handle := d.issued + 1
  (handle, { d with issued := handle, commandBuffers := d.commandBuffers.insert handle [] })

def record (d : Device) (commandBuffer : Handle) (command : Command) : Device :=
  if d.commandBuffers.contains commandBuffer then
    { d with commandBuffers := d.commandBuffers.modify commandBuffer (· ++ [command]) }
  else d.violate (.recordedIntoUnknown commandBuffer)

/-- Lets `count` more allocations succeed. -/
def limitAllocations (d : Device) (count : Nat) : Device :=
  { d with allocationBudget := some count }

/-- Creates a buffer and binds it to fresh memory of the first type that has the flags. A failure
after the first step leaves behind what was created before it. -/
def createBound (d : Device) (size : Nat) (usage flags : Mask) :
    Except Status (Handle × Handle) × Device :=
  match (List.range d.properties.count).find? fun i =>
      (d.properties.slot i).flags.contains flags with
  | none => (.error .featureNotPresent, d)
  | some typeIndex =>
    match d.createBuffer size usage with
    | (.error s, d) => (.error s, d)
    | (.ok buffer, d) =>
      match d.requirements buffer with
      | (needs, d) =>
        match d.allocate needs.size typeIndex with
        | (.error s, d) => (.error s, d)
        | (.ok memory, d) =>
          match d.bind buffer memory 0 with
          | (.error s, d) => (.error s, d)
          | (.ok (), d) => (.ok (buffer, memory), d)

end Device
end TensorMemory
