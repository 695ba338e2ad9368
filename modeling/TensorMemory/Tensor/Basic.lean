import TensorMemory.Tensor.Backing

/-!
Tensors. A tensor is live, with resources on its device; vacant, when a rebuild lost the old
resources and got no new ones; or detached from its device for good. What a tensor answers depends
on its parts only: the device, the mapping and the two buffers, each of which is there or not. That
parts which come and go one by one never leave another combination is proved of the lifecycle in
`Parts`.
-/

namespace TensorMemory

/-- The ownership of each of a tensor's four handles. -/
structure HandleOwnership where
  primaryBuffer : Option Ownership
  primaryMemory : Option Ownership
  stagingBuffer : Option Ownership
  stagingMemory : Option Ownership
  deriving DecidableEq, Repr

/-- A tensor part by part. Nothing here says that a part is there only together with another. -/
structure Parts where
  /-- The tensor has a device. -/
  isAttached : Bool
  kind : Placement
  dtype : ElementType
  size : Nat
  /-- Where the host-visible side is mapped. -/
  mapping? : Option Place
  primary? : Option BackedBuffer
  staging? : Option BackedBuffer
  deriving DecidableEq, Repr

namespace Parts

/-- Bytes of the elements. -/
def byteSize (p : Parts) : Nat := p.size * p.dtype.width

/-- All is there that the placement cannot do without. -/
def isInitialized (p : Parts) : Bool :=
  p.isAttached && p.primary?.isSome && (p.kind = .storage || p.mapping?.isSome)

def ownership (p : Parts) : HandleOwnership where
  primaryBuffer := p.primary?.map (·.buffer.ownership)
  primaryMemory := p.primary?.map (·.memory.ownership)
  stagingBuffer := p.staging?.map (·.buffer.ownership)
  stagingMemory := p.staging?.map (·.memory.ownership)

def checkAttached (p : Parts) : Except TensorError Unit :=
  if p.isAttached then .ok () else .error .notInitialized

def primary (p : Parts) : Except TensorError BackedBuffer :=
  match p.primary? with
  | some b => .ok b
  | none => .error .notInitialized

/-- The staging buffer. That the placement has none is noticed before that there is none now. -/
def staging (p : Parts) (operation : String) : Except TensorError BackedBuffer :=
  if !p.kind.isStaged then .error (.unsupportedForKind operation p.kind)
  else
    match p.staging? with
    | some b => .ok b
    | none => .error .notInitialized

/-- Buffer, offset and range of a descriptor that covers the whole tensor. -/
def descriptor (p : Parts) : Except TensorError (Handle × Nat × Nat) :=
  p.primary.map fun b => (b.buffer.handle, 0, p.byteSize)

end Parts

/-- What a live tensor holds: its buffers, and where the host-visible one is mapped. -/
structure Resources where
  backing : Backing
  mapping : Option Place
  deriving DecidableEq, Repr

inductive Residence where
  | live (resources : Resources)
  | vacant
  | detached
  deriving DecidableEq, Repr

structure Tensor where
  kind : Placement
  dtype : ElementType
  size : Nat
  residence : Residence
  deriving DecidableEq, Repr

namespace Tensor

def isAttached (t : Tensor) : Bool := t.residence ≠ .detached

def resources? (t : Tensor) : Option Resources :=
  match t.residence with
  | .live r => some r
  | _ => none

/-- The primary buffer, which only a live tensor has. -/
def primary? (t : Tensor) : Option BackedBuffer := t.resources?.map (·.backing.primary)

def staging? (t : Tensor) : Option BackedBuffer := t.resources?.bind (·.backing.staging)

def mapping? (t : Tensor) : Option Place := t.resources?.bind (·.mapping)

abbrev parts (t : Tensor) : Parts where
  isAttached := t.isAttached
  kind := t.kind
  dtype := t.dtype
  size := t.size
  mapping? := t.mapping?
  primary? := t.primary?
  staging? := t.staging?

/-- Bytes of the tensor's elements. -/
def byteSize (t : Tensor) : Nat := t.size * t.dtype.width

/-- The tensor has all it needs for its placement. -/
def isInitialized (t : Tensor) : Bool := t.parts.isInitialized

def ownership (t : Tensor) : HandleOwnership := t.parts.ownership

def checkAttached (t : Tensor) : Except TensorError Unit := t.parts.checkAttached

def primary (t : Tensor) : Except TensorError BackedBuffer := t.parts.primary

def staging (t : Tensor) (operation : String) : Except TensorError BackedBuffer :=
  t.parts.staging operation

def descriptor (t : Tensor) : Except TensorError (Handle × Nat × Nat) := t.parts.descriptor

/-- A tensor with a primary buffer has a device. -/
theorem isInitialized_eq (t : Tensor) :
    t.isInitialized = (t.primary?.isSome && (t.kind = .storage || t.mapping?.isSome)) := by
  obtain ⟨kind, dtype, size, residence⟩ := t
  cases residence <;> rfl

end Tensor

namespace HandleOwnership

/-- Each handle by its name. -/
def handles (o : HandleOwnership) : List (String × Option Ownership) :=
  [("primary_buffer", o.primaryBuffer), ("primary_memory", o.primaryMemory),
    ("staging_buffer", o.stagingBuffer), ("staging_memory", o.stagingMemory)]

/-- The four as logs show them. -/
def describe (o : HandleOwnership) : String :=
  let shown (held : Option Ownership) : String :=
    match held with
    | some held => "Some(" ++ held.name ++ ")"
    | none => "None"
  "OwnershipReport \x7b " ++ ", ".intercalate (o.handles.map fun h => h.1 ++ ": " ++ shown h.2) ++
    " \x7d"

end HandleOwnership

/-- The tensor as logs show it. -/
def Tensor.describe (t : Tensor) : String :=
  "Tensor \x7b kind: " ++ t.kind.name ++ ", dtype: " ++ t.dtype.name ++ ", size: " ++
    Text.decimal t.size ++ ", initialized: " ++ (if t.isInitialized then "true" else "false") ++
    ", ownership: " ++ t.ownership.describe ++ " \x7d"

/-- The number of bytes that initial data of a layout must have. The element size is checked first,
then the number of elements, then the length of the data. -/
def checkLayout (dtype : ElementType) (dataLength : Option Nat) (size elementSize : Nat) :
    Except TensorError Nat :=
  if elementSize ≠ dtype.width then .error (.elementSizeMismatch dtype dtype.width elementSize)
  else
    match byteSizeOf size elementSize with
    | .error e => .error e
    | .ok byteSize =>
      match dataLength with
      | none => .ok byteSize
      | some n =>
        if n = byteSize then .ok byteSize else .error (.dimensionMismatch byteSize n)

end TensorMemory
