import TensorMemory.Mask

/-!
Memory properties of a device: its memory types, each with flags and the heap behind it. A slot that
the list does not reach has no flags.
-/

namespace TensorMemory

/-- Slots for memory types that any device has. -/
def maxMemoryTypes : Nat := 32

/-- The size that stands for everything up to the end of a memory. -/
def wholeSize : Nat := UInt64.size - 1

structure MemoryType where
  flags : Mask
  heap : Nat
  deriving DecidableEq, Repr

structure MemoryHeap where
  size : Nat
  flags : Mask
  deriving DecidableEq, Repr

structure MemoryProperties where
  count : Nat
  types : List MemoryType
  heaps : List MemoryHeap
  deriving DecidableEq, Repr

namespace MemoryProperties

def slot (p : MemoryProperties) (i : Nat) : MemoryType := p.types.getD i ⟨.empty, 0⟩

/-- Two heaps of one gibibyte, the first of them local to the device. Types with the device-local
flag are on the first heap and all others on the second; types past the last slot are dropped. -/
def ofTypes (types : List Mask) : MemoryProperties where
  count := min types.length maxMemoryTypes
  types := (types.take maxMemoryTypes).map fun flags =>
    ⟨flags, if flags.contains MemoryFlags.deviceLocal then 0 else 1⟩
  heaps := [⟨1 <<< 30, ⟨1⟩⟩, ⟨1 <<< 30, .empty⟩]

/-- A discrete device: one device-local type and one that the host can see. -/
def discrete : MemoryProperties :=
  ofTypes [MemoryFlags.deviceLocal, MemoryFlags.hostVisible ||| MemoryFlags.hostCoherent]

/-- One bit for every memory type there is. -/
def typeBits (p : MemoryProperties) : Mask :=
  ⟨UInt32.ofNat (1 <<< min p.count maxMemoryTypes - 1)⟩

/-- The first memory type that the bits allow and whose flags contain the required ones. -/
def select (p : MemoryProperties) (bits required : Mask) : Option Nat :=
  (List.range (min p.count maxMemoryTypes)).find? fun i =>
    bits.testBit i && (p.slot i).flags.contains required

end MemoryProperties
end TensorMemory
