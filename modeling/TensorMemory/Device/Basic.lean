import TensorMemory.Block
import TensorMemory.Device.Properties
import TensorMemory.Device.Violation
import TensorMemory.Table

/-!
The state of a device. Buffers, memories and command buffers are named by handles from one counter,
and a handle is never given out twice. Sizes and offsets are natural numbers: where a sum is checked,
one that would leave 64 bits is larger than any capacity, so comparing exact sums refuses it as well.
Two sums are not checked, offset and size of a binding and the rounding of what a buffer needs:
arguments that take them past 64 bits are left out.
-/

namespace TensorMemory

/-- A place inside a memory. -/
structure Place where
  memory : Handle
  offset : Nat
  deriving DecidableEq, Repr, Inhabited

structure Buffer where
  size : Nat
  usage : Mask
  binding : Option Place
  deriving DecidableEq, Repr

structure Memory where
  contents : Block
  typeIndex : Nat
  mapped : Bool

structure Device where
  properties : MemoryProperties
  /-- The last handle given out. -/
  issued : Handle
  buffers : Table Handle Buffer
  memories : Table Handle Memory
  commandBuffers : Table Handle (List Command)
  violations : List Violation
  hazards : List Hazard
  buffersDestroyed : Nat
  memoriesFreed : Nat
  /-- Allocations that may still succeed; no bound when absent. -/
  allocationBudget : Option Nat

namespace Device

def ofProperties (properties : MemoryProperties) : Device where
  properties
  issued := 0
  buffers := .empty
  memories := .empty
  commandBuffers := .empty
  violations := []
  hazards := []
  buffersDestroyed := 0
  memoriesFreed := 0
  allocationBudget := none

def ofTypes (types : List Mask) : Device := ofProperties (.ofTypes types)

def hasBuffer (d : Device) (buffer : Handle) : Bool := d.buffers.contains buffer

def hasMemory (d : Device) (memory : Handle) : Bool := d.memories.contains memory

def isMapped (d : Device) (memory : Handle) : Bool :=
  (d.memories.get? memory).any (·.mapped)

/-- What waits in a command buffer; nothing for an unknown one. -/
def recorded (d : Device) (commandBuffer : Handle) : List Command :=
  (d.commandBuffers.get? commandBuffer).getD []

/-- `length` bytes of a memory from a place on. -/
def load (d : Device) (place : Place) (length : Nat) : Block :=
  match d.memories.get? place.memory with
  | some m => m.contents.slice place.offset length
  | none => .zeros 0

/-- Writes bytes into a memory from a place on. -/
def store (d : Device) (place : Place) (chunk : Block) : Device :=
  { d with memories := d.memories.modify place.memory fun m =>
      { m with contents := m.contents.overwrite place.offset chunk } }

def violate (d : Device) (v : Violation) : Device := { d with violations := d.violations ++ [v] }

end Device
end TensorMemory
