import TensorMemory.Device.Operations

/-!
Executing command buffers. Commands run in order and copies take effect at once; the first copy that
cannot be carried out ends the submission. Barriers move no data: they decide which copies are
reported as hazards.
-/

namespace TensorMemory.Device

/-- The place of a range of a buffer. The checks come in this order: live, usage, bound, inside the
buffer, memory live. -/
def locate (d : Device) (buffer : Handle) (required : Mask) (offset size : Nat) :
    Except AccessError Place :=
  match d.buffers.get? buffer with
  | none => .error (.unknownBuffer buffer)
  | some b =>
    if !b.usage.contains required then .error (.missingUsage buffer required)
    else
      match b.binding with
      | none => .error (.unboundBuffer buffer)
      | some place =>
        if b.size < offset + size then .error (.outOfBounds buffer offset size b.size)
        else if d.hasMemory place.memory then .ok ⟨place.memory, place.offset + offset⟩
        else .error (.unboundBuffer buffer)

/-- Moves one region. All its bytes are read before the first is written, so ranges may overlap. -/
def copyRegion (d : Device) (source target : Handle) (r : CopyRegion) : Except AccessError Device :=
  match d.locate source UsageFlags.transferSource r.sourceOffset r.size with
  | .error e => .error e
  | .ok readFrom =>
    match d.locate target UsageFlags.transferTarget r.targetOffset r.size with
    | .error e => .error e
    | .ok writeTo => .ok (d.store writeTo (d.load readFrom r.size))

/-- Moves regions one after another up to the first that fails. -/
def copyRegions (d : Device) (source target : Handle) :
    List CopyRegion → Except AccessError Unit × Device
  | [] => (.ok (), d)
  | r :: rest =>
    match d.copyRegion source target r with
    | .error e => (.error e, d)
    | .ok d => d.copyRegions source target rest

/-- The barriers make an earlier transfer write of the buffer available. -/
def settles (barriers : List BufferBarrier) (buffer : Handle) : Bool :=
  barriers.any fun b => b.buffer = buffer && b.sourceAccess.contains AccessFlags.transferWrite

/-- Runs commands, the first of which has the given index. `pending` holds the buffers written by an
earlier copy and not made available since. -/
def execute (d : Device) (pending : List Handle) (index : Nat) :
    List Command → Except AccessError Unit × Device
  | [] => (.ok (), d)
  | .copy source target regions :: rest =>
    let d :=
      if source ∈ pending then
        { d with hazards := d.hazards ++ [⟨source, AccessFlags.transferWrite, index⟩] }
      else d
    match d.copyRegions source target regions with
    | (.error e, d) => (.error e, d)
    | (.ok (), d) => d.execute (target :: pending) (index + 1) rest
  | .barrier _ _ barriers :: rest =>
    d.execute (pending.filter fun b => !settles barriers b) (index + 1) rest

/-- Executes a command buffer and leaves it empty. -/
def submit (d : Device) (commandBuffer : Handle) : Except AccessError Unit × Device :=
  match d.commandBuffers.get? commandBuffer with
  | none => (.error (.unknownCommandBuffer commandBuffer), d)
  | some commands =>
    { d with commandBuffers := d.commandBuffers.modify commandBuffer fun _ => [] }.execute [] 0
      commands

/-- Writes bytes at the start of a buffer, as a shader would. -/
def write (d : Device) (buffer : Handle) (chunk : Block) : Except AccessError Device :=
  (d.locate buffer .empty 0 chunk.size).map fun place => d.store place chunk

def read (d : Device) (buffer : Handle) (length : Nat) : Except AccessError Block :=
  (d.locate buffer .empty 0 length).map fun place => d.load place length

end TensorMemory.Device
