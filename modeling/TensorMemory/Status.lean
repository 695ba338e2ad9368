/-!
Result codes of device calls. A code has a fixed description; codes without one are shown as
numbers.
-/

namespace TensorMemory

structure Status where
  code : Int
  deriving DecidableEq, Repr, Inhabited

namespace Status

def outOfDeviceMemory : Status := ⟨-2⟩
def memoryMapFailed : Status := ⟨-5⟩
def featureNotPresent : Status := ⟨-8⟩
def validationFailed : Status := ⟨-1000011001⟩

def message (s : Status) : String :=
  match s.code with
  | 0 => "Command completed successfully"
  | 1 => "A fence or query has not yet completed"
  | 2 => "A wait operation has not completed in the specified time"
  | 3 => "An event is signaled"
  | 4 => "An event is unsignaled"
  | 5 => "A return array was too small for the result"
  | -1 => "A host memory allocation has failed"
  | -2 => "A device memory allocation has failed"
  | -3 => "Initialization of an object has failed"
  | -4 => "The logical device has been lost. See <https://registry.khronos.org/vulkan/specs/1.3-extensions/html/vkspec.html#devsandqueues-lost-device>"
  | -5 => "Mapping of a memory object has failed"
  | -6 => "Layer specified does not exist"
  | -7 => "Extension specified does not exist"
  | -8 => "Requested feature is not available on this device"
  | -9 => "Unable to find a Vulkan driver"
  | -10 => "Too many objects of the type have already been created"
  | -11 => "Requested format is not supported on this device"
  | -12 => "A requested pool allocation has failed due to fragmentation of the pool's memory"
  | -13 => "An unknown error has occurred, due to an implementation or application bug"
  | -1000011001 => "ERROR_VALIDATION_FAILED_EXT"
  | code => toString code

end Status
end TensorMemory
