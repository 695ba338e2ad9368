import TensorMemory.Gateway.Basic

/-!
Who frees what. A handle is owned by the tensor that created it or borrowed from the caller. To
release a backed buffer is to give back what is owned of it, the buffer before its memory, and to
count the rest.
-/

namespace TensorMemory

inductive Ownership where
  | owned
  | borrowed
  deriving DecidableEq, Repr

def Ownership.name : Ownership → String
  | owned => "Owned"
  | borrowed => "Borrowed"

/-- A handle and who has to free it. -/
structure HeldHandle where
  handle : Handle
  ownership : Ownership
  deriving DecidableEq, Repr

namespace HeldHandle

def owned (handle : Handle) : HeldHandle := ⟨handle, .owned⟩

def borrowed (handle : Handle) : HeldHandle := ⟨handle, .borrowed⟩

def isOwned (h : HeldHandle) : Bool := h.ownership = .owned

/-- One for an owned handle. -/
def ownedCount (h : HeldHandle) : Nat := if h.isOwned then 1 else 0

end HeldHandle

/-- A buffer of the caller with the memory it is bound to. -/
structure LentBuffer where
  buffer : Handle
  memory : Handle
  deriving DecidableEq, Repr

/-- A buffer and the memory bound to it. -/
structure BackedBuffer where
  buffer : HeldHandle
  memory : HeldHandle
  /-- What the buffer was created for; unknown for a borrowed one. -/
  usage : Option Mask
  deriving DecidableEq, Repr

/-- Handles freed and handles left to their owner. -/
structure ReleaseTally where
  freed : Nat
  retained : Nat
  deriving DecidableEq, Repr

namespace ReleaseTally

def zero : ReleaseTally := ⟨0, 0⟩

def add (a b : ReleaseTally) : ReleaseTally := ⟨a.freed + b.freed, a.retained + b.retained⟩

instance : Add ReleaseTally := ⟨add⟩

def total (t : ReleaseTally) : Nat := t.freed + t.retained

end ReleaseTally

namespace BackedBuffer

def owned (buffer memory : Handle) (usage : Mask) : BackedBuffer :=
  ⟨.owned buffer, .owned memory, some usage⟩

def borrowed (l : LentBuffer) : BackedBuffer := ⟨.borrowed l.buffer, .borrowed l.memory, none⟩

def ownedCount (b : BackedBuffer) : Nat := b.buffer.ownedCount + b.memory.ownedCount

/-- What releasing it frees and retains. -/
def tally (b : BackedBuffer) : ReleaseTally := ⟨b.ownedCount, 2 - b.ownedCount⟩

def release (b : BackedBuffer) (g : Gateway) : Gateway :=
  let g := if b.buffer.isOwned then g.destroyBuffer b.buffer.handle else g
  if b.memory.isOwned then g.freeMemory b.memory.handle else g

end BackedBuffer
end TensorMemory
