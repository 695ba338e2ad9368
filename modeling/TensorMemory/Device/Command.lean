import TensorMemory.Mask

/-!
Commands that wait in a command buffer: copies between buffers, region by region, and barriers.
-/

namespace TensorMemory

/-- Names a buffer, a memory or a command buffer of one device. -/
abbrev Handle := Nat

structure CopyRegion where
  sourceOffset : Nat
  targetOffset : Nat
  size : Nat
  deriving DecidableEq, Repr

/-- One buffer's part of a barrier. -/
structure BufferBarrier where
  buffer : Handle
  sourceAccess : Mask
  targetAccess : Mask
  sourceFamily : Nat
  targetFamily : Nat
  offset : Nat
  size : Nat
  deriving DecidableEq, Repr

inductive Command where
  | copy (source target : Handle) (regions : List CopyRegion)
  | barrier (sourceStage targetStage : Mask) (barriers : List BufferBarrier)
  deriving DecidableEq, Repr

/-- The queue family that stands for no transfer between families. -/
def ignoredFamily : Nat := UInt32.size - 1

/-- A copy out of a buffer whose earlier write in the same submission no barrier made available. -/
structure Hazard where
  buffer : Handle
  pending : Mask
  commandIndex : Nat
  deriving DecidableEq, Repr

end TensorMemory
