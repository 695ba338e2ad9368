import TensorMemory.Device.Command
import TensorMemory.ElementType
import TensorMemory.Placement
import TensorMemory.Status
import TensorMemory.Text.Numeral

/-!
Why an operation on a tensor is refused. Capability errors come from the device; all others are the
caller's.
-/

namespace TensorMemory

inductive TensorError where
  | noCompatibleMemoryType (typeBits required : Mask)
  | backend (operation : String) (status : Status)
  | notInitialized
  | emptyTensor
  | sizeOverflow (elements elementSize : Nat)
  | dimensionMismatch (expected actual : Nat)
  | elementSizeMismatch (dtype : ElementType) (expected actual : Nat)
  | dtypeMismatch (expected actual : ElementType)
  | unsupportedForKind (operation : String) (kind : Placement)
  | missingTransferUsage (required : Mask)
  | overlappingCopy (buffer : Handle)
  /-- The mapping does not start at a multiple of the element's width. -/
  | misalignedView (dtype : ElementType)
  deriving DecidableEq, Repr

namespace TensorError

def isCapability : TensorError → Bool
  | noCompatibleMemoryType .. | backend .. => true
  | _ => false

def message : TensorError → String
  | noCompatibleMemoryType typeBits required =>
    "No memory type satisfies type bits " ++ Text.binary typeBits.bits.toNat ++
      " with properties " ++ MemoryFlags.describe required
  | backend operation status => s!"Backend call {operation} failed: " ++ status.message
  | notInitialized => "Tensor is not initialized"
  | emptyTensor => "Tensor must hold at least one element"
  | sizeOverflow elements elementSize =>
    s!"Tensor byte size overflows u32: {elements} elements of {elementSize} bytes"
  | dimensionMismatch expected actual =>
    s!"Dimension mismatch: expected {expected}, actual {actual}"
  | elementSizeMismatch dtype expected actual =>
    s!"Element size {actual} does not match {dtype.name} width {expected}"
  | dtypeMismatch expected actual =>
    s!"Tensor dtype mismatch: expected {expected.name}, got {actual.name}"
  | unsupportedForKind operation kind =>
    s!"Operation {operation} is not supported on {kind.name} tensors"
  | missingTransferUsage required =>
    "Buffer was created without " ++ UsageFlags.describe required ++ " usage"
  | overlappingCopy buffer => "Copy source and destination share buffer " ++ Text.hex buffer
  | misalignedView dtype =>
    s!"Mapped memory cannot be viewed as {dtype.name}: TargetAlignmentGreaterAndInputNotAligned"

end TensorError
end TensorMemory
