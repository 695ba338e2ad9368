/-!
Flag masks of 32 bits: what memory can do, what a buffer may be used for, which accesses and
pipeline stages a barrier orders. A mask is shown by the names of its bits, and by one binary number
for those that have no name.
-/

namespace TensorMemory

structure Mask where
  bits : UInt32
  deriving DecidableEq, Repr, Inhabited

namespace Mask

def empty : Mask := ⟨0⟩

def union (a b : Mask) : Mask := ⟨a.bits ||| b.bits⟩

def inter (a b : Mask) : Mask := ⟨a.bits &&& b.bits⟩

instance : OrOp Mask := ⟨union⟩

/-- Every bit of `required` is set. -/
def contains (m required : Mask) : Bool := m.bits &&& required.bits == required.bits

/-- Nothing is asked for. -/
theorem contains_empty (m : Mask) : m.contains empty = true := by
  rw [contains, empty, UInt32.and_zero]
  rfl

def testBit (m : Mask) (i : Nat) : Bool := m.bits.toNat.testBit i

/-- Binary digits, the highest first. -/
def binary (n : UInt32) : String := String.ofList (Nat.toDigits 2 n.toNat)

/-- The names of the set bits in the order of the list, then the rest as a binary number, separated
by bars. -/
def describe (names : List (Mask × String)) (m : Mask) : String :=
  let known := names.filter fun e => m.contains e.1
  let rest := known.foldl (fun bits e => bits &&& ~~~ e.1.bits) m.bits
  " | ".intercalate (known.map Prod.snd ++ if rest = 0 then [] else [binary rest])

end Mask

/-! What a memory type offers. -/

namespace MemoryFlags

def deviceLocal : Mask := ⟨0x1⟩
def hostVisible : Mask := ⟨0x2⟩
def hostCoherent : Mask := ⟨0x4⟩

def describe : Mask → String := Mask.describe [
  (⟨0x1⟩, "DEVICE_LOCAL"), (⟨0x2⟩, "HOST_VISIBLE"), (⟨0x4⟩, "HOST_COHERENT"),
  (⟨0x8⟩, "HOST_CACHED"), (⟨0x10⟩, "LAZILY_ALLOCATED"), (⟨0x40⟩, "DEVICE_COHERENT_AMD"),
  (⟨0x80⟩, "DEVICE_UNCACHED_AMD"), (⟨0x100⟩, "RDMA_CAPABLE_NV"), (⟨0x20⟩, "PROTECTED")]

end MemoryFlags

/-! What a buffer may be used for. -/

namespace UsageFlags

def transferSource : Mask := ⟨0x1⟩
def transferTarget : Mask := ⟨0x2⟩
def storageBuffer : Mask := ⟨0x20⟩

def describe : Mask → String := Mask.describe [
  (⟨0x1⟩, "TRANSFER_SRC"), (⟨0x2⟩, "TRANSFER_DST"), (⟨0x4⟩, "UNIFORM_TEXEL_BUFFER"),
  (⟨0x8⟩, "STORAGE_TEXEL_BUFFER"), (⟨0x10⟩, "UNIFORM_BUFFER"), (⟨0x20⟩, "STORAGE_BUFFER"),
  (⟨0x40⟩, "INDEX_BUFFER"), (⟨0x80⟩, "VERTEX_BUFFER"), (⟨0x100⟩, "INDIRECT_BUFFER")]

end UsageFlags

/-! Accesses that a barrier makes available or visible. -/

namespace AccessFlags

def shaderRead : Mask := ⟨0x20⟩
def shaderWrite : Mask := ⟨0x40⟩
def transferRead : Mask := ⟨0x800⟩
def transferWrite : Mask := ⟨0x1000⟩

end AccessFlags

/-! Pipeline stages that a barrier waits for or holds back. -/

namespace StageFlags

def computeShader : Mask := ⟨0x800⟩
def transfer : Mask := ⟨0x1000⟩

end StageFlags
end TensorMemory
