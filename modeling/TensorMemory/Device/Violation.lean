import TensorMemory.Device.Command
import TensorMemory.Text.Numeral

/-!
Two ways in which a device objects. A violation is misuse that the device notes and survives; an
access error stops the reading, writing or submission that met it.
-/

namespace TensorMemory

inductive Violation where
  | emptyBuffer
  | missingMemoryType (index : Nat)
  | requirementsOfUnknown (buffer : Handle)
  | bindToUnknown (memory : Handle)
  | bindOfUnknown (buffer : Handle)
  | boundTwice (buffer : Handle)
  | notMapped (memory : Handle)
  | destroyOfUnknown (buffer : Handle)
  | freedWhileBound (memory : Handle)
  | freeOfUnknown (memory : Handle)
  | recordedIntoUnknown (commandBuffer : Handle)
  deriving DecidableEq, Repr

namespace Violation

def message : Violation → String
  | emptyBuffer => "buffer created with size 0"
  | missingMemoryType i => "allocation from missing memory type " ++ Text.decimal i
  | requirementsOfUnknown b => "requirements queried for unknown buffer " ++ Text.hex b
  | bindToUnknown m => "bind to unknown memory " ++ Text.hex m
  | bindOfUnknown b => "bind of unknown buffer " ++ Text.hex b
  | boundTwice b => "buffer " ++ Text.hex b ++ " bound twice"
  | notMapped m => "unmap of memory " ++ Text.hex m ++ " that is not mapped"
  | destroyOfUnknown b => "destroy of unknown buffer " ++ Text.hex b
  | freedWhileBound m => "memory " ++ Text.hex m ++ " freed while a buffer is still bound"
  | freeOfUnknown m => "free of unknown memory " ++ Text.hex m
  | recordedIntoUnknown c => "recorded into unknown command buffer " ++ Text.hex c

end Violation

inductive AccessError where
  | unknownCommandBuffer (commandBuffer : Handle)
  | unknownBuffer (buffer : Handle)
  | unboundBuffer (buffer : Handle)
  | missingUsage (buffer : Handle) (required : Mask)
  | outOfBounds (buffer : Handle) (offset size capacity : Nat)
  deriving DecidableEq, Repr

namespace AccessError

def message : AccessError → String
  | unknownCommandBuffer c => "Unknown command buffer " ++ Text.hex c
  | unknownBuffer b => "Buffer " ++ Text.hex b ++ " is not live"
  | unboundBuffer b => "Buffer " ++ Text.hex b ++ " has no bound memory"
  | missingUsage b required =>
    "Buffer " ++ Text.hex b ++ " was created without " ++ UsageFlags.describe required ++ " usage"
  | outOfBounds b offset size capacity =>
    s!"Access of {size} bytes at offset {offset} exceeds buffer " ++ Text.hex b ++
      s!" of {capacity} bytes"

end AccessError
end TensorMemory
