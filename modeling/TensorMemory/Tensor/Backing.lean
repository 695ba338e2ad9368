import TensorMemory.Tensor.Error
import TensorMemory.Tensor.Ownership

/-!
What backs a tensor: a primary buffer and, for some placements, a staging buffer that the host sees.
Each placement needs its own usages and memory flags; what was created before a failure is released
again, so that a failed creation leaves nothing behind.
-/

namespace TensorMemory

/-- The usage of a buffer and the flags of its memory. -/
structure BufferNeed where
  usage : Mask
  memoryFlags : Mask
  deriving DecidableEq, Repr

structure PlacementNeeds where
  primary : BufferNeed
  staging : Option BufferNeed
  deriving DecidableEq, Repr

namespace Placement

def transfer : Mask := UsageFlags.transferSource ||| UsageFlags.transferTarget

def hostCoherent : Mask := MemoryFlags.hostVisible ||| MemoryFlags.hostCoherent

def needs : Placement → PlacementNeeds
  | device =>
    { primary := ⟨transfer ||| UsageFlags.storageBuffer, MemoryFlags.deviceLocal⟩
      staging := some ⟨transfer, hostCoherent⟩ }
  | host => { primary := ⟨transfer ||| UsageFlags.storageBuffer, hostCoherent⟩, staging := none }
  | storage => { primary := ⟨UsageFlags.storageBuffer, MemoryFlags.deviceLocal⟩, staging := none }

end Placement

/-- Tensors stay below this many bytes. -/
def sizeLimit : Nat := UInt32.size

/-- Bytes of so many elements of a size: at least one element, and below the limit. -/
def byteSizeOf (elements elementSize : Nat) : Except TensorError Nat :=
  if elements = 0 then .error .emptyTensor
  else if elements * elementSize < sizeLimit then .ok (elements * elementSize)
  else .error (.sizeOverflow elements elementSize)

namespace Gateway

/-- Allocates memory that suits a buffer and binds it at offset zero. -/
def provideMemory (g : Gateway) (buffer : Handle) (need : BufferNeed) :
    Except TensorError Handle × Gateway :=
  let (required, g) := g.requirements buffer
  match g.device.properties.select required.typeBits need.memoryFlags with
  | none => (.error (.noCompatibleMemoryType required.typeBits need.memoryFlags), g)
  | some typeIndex =>
    match g.allocate required.size typeIndex with
    | (.error s, g) => (.error (.backend "vkAllocateMemory" s), g)
    | (.ok memory, g) =>
      match g.bind buffer memory 0 with
      | (.error s, g) => (.error (.backend "vkBindBufferMemory" s), g.freeMemory memory)
      | (.ok (), g) =>
        (.ok memory, g.tell (.debug "vulkanic::allocation" "buffer memory bound"
          [("allocation", .nat required.size), ("memory_type", .nat typeIndex),
            ("usage", .plain (UsageFlags.describe need.usage))]))

/-- Creates a buffer with memory of its own. -/
def createBacked (g : Gateway) (size : Nat) (need : BufferNeed) :
    Except TensorError BackedBuffer × Gateway :=
  match g.createBuffer size need.usage with
  | (.error s, g) => (.error (.backend "vkCreateBuffer" s), g)
  | (.ok buffer, g) =>
    match g.provideMemory buffer need with
    | (.error e, g) => (.error e, g.destroyBuffer buffer)
    | (.ok memory, g) => (.ok (.owned buffer memory need.usage), g)

/-- Takes what the caller lent, or creates a buffer. -/
def obtainBacked (g : Gateway) (size : Nat) (need : BufferNeed) (lent : Option LentBuffer) :
    Except TensorError BackedBuffer × Gateway :=
  match lent with
  | some l => (.ok (.borrowed l), g)
  | none => g.createBacked size need

end Gateway

structure Backing where
  primary : BackedBuffer
  staging : Option BackedBuffer
  deriving DecidableEq, Repr

namespace Backing

/-- Releases both buffers, the staging one last. -/
def release (b : Backing) (g : Gateway) : Gateway :=
  let g := b.primary.release g
  match b.staging with
  | some s => s.release g
  | none => g

/-- What releasing both frees and retains. -/
def tally (b : Backing) : ReleaseTally :=
  b.primary.tally + (b.staging.map BackedBuffer.tally).getD .zero

def ownedCount (b : Backing) : Nat :=
  b.primary.ownedCount + (b.staging.map BackedBuffer.ownedCount).getD 0

/-- The buffer whose memory the host maps. -/
def hostSide (b : Backing) : Placement → Option BackedBuffer
  | .device => b.staging
  | .host => some b.primary
  | .storage => none

/-- Bytes of owned memory that was asked for with, or without, the host-visible flag. -/
def ownedBytes (b : Backing) (kind : Placement) (visible : Bool) (byteSize : Nat) : Nat :=
  let count (backed : Option BackedBuffer) (need : Option BufferNeed) : Nat :=
    match backed, need with
    | some backed, some need =>
      if backed.memory.isOwned && need.memoryFlags.contains MemoryFlags.hostVisible == visible then
        byteSize
      else 0
    | _, _ => 0
  count (some b.primary) (some kind.needs.primary) + count b.staging kind.needs.staging

end Backing

namespace Gateway

/-- Obtains the buffers that a placement needs. A staging buffer can be lent only where there is
one. -/
def obtainBacking (g : Gateway) (kind : Placement) (byteSize : Nat)
    (primary staging : Option LentBuffer) : Except TensorError Backing × Gateway :=
  if staging.isSome && kind.needs.staging.isNone then
    (.error (.unsupportedForKind "borrowed staging buffer" kind), g)
  else
    match g.obtainBacked byteSize kind.needs.primary primary with
    | (.error e, g) => (.error e, g)
    | (.ok first, g) =>
      match kind.needs.staging with
      | none => (.ok ⟨first, none⟩, g)
      | some need =>
        match g.obtainBacked byteSize need staging with
        | (.error e, g) => (.error e, first.release g)
        | (.ok second, g) => (.ok ⟨first, some second⟩, g)

/-- Maps the memory of a buffer and fills it: with the data, or with zeros if the memory is owned.
Borrowed memory without data keeps what it holds. -/
def mapAndFill (g : Gateway) (backed : BackedBuffer) (byteSize : Nat) (data : Option Block) :
    Except TensorError Place × Gateway :=
  let memory := backed.memory.handle
  match g.map memory 0 byteSize with
  | (.error s, g) => (.error (.backend "vkMapMemory" s), g)
  | (.ok none, g) => (.error (.backend "vkMapMemory" .memoryMapFailed), g.unmap memory)
  | (.ok (some place), g) =>
    match data with
    | some data => (.ok place, g.store place data)
    | none =>
      if backed.memory.isOwned then (.ok place, g.store place (.zeros byteSize))
      else (.ok place, g)

end Gateway
end TensorMemory
