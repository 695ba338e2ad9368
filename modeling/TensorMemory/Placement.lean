/-!
Where a tensor's data lives: in device memory with a host-visible staging copy, in host-visible
memory that the device reads directly, or in device memory that the host never sees.
-/

namespace TensorMemory

inductive Placement where
  | device
  | host
  | storage
  deriving DecidableEq, Repr, Inhabited

namespace Placement

def all : List Placement := [device, host, storage]

def name : Placement → String
  | device => "Device"
  | host => "Host"
  | storage => "Storage"

/-- Reads a name, exactly as `name` writes it. -/
def ofName? (s : String) : Option Placement := all.find? (·.name = s)

def isStaged (p : Placement) : Bool := p = device

def isHostVisible (p : Placement) : Bool := p ≠ storage

end Placement
end TensorMemory
