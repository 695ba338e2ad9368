import TensorMemory.Tensor.Lifecycle

/-!
Host views: the mapped bytes of a tensor as elements. For a tensor in device memory they are those
of the staging buffer, so a write reaches the device only after a recorded copy.
-/

namespace TensorMemory

/-- The host-visible bytes of a tensor. -/
structure HostRange where
  place : Place
  length : Nat
  deriving DecidableEq, Repr

/-- A host range as elements of a type. -/
structure HostView (dtype : ElementType) where
  place : Place
  count : Nat
  deriving DecidableEq, Repr

namespace HostView

/-- What the view shows of the device's memory. -/
def block {dtype : ElementType} (v : HostView dtype) (d : Device) : Block :=
  d.load v.place (v.count * dtype.width)

def elements {dtype : ElementType} (v : HostView dtype) (d : Device) : List (Element dtype) :=
  Element.decode dtype v.count (v.block d)

/-- One element; none past the end. -/
def get? {dtype : ElementType} (v : HostView dtype) (d : Device) (i : Nat) :
    Option (Element dtype) :=
  if i < v.count then some (Element.nth dtype (v.block d) i) else none

theorem getElem?_elements {dtype : ElementType} (v : HostView dtype) (d : Device) (i : Nat) :
    (v.elements d)[i]? = v.get? d i := by
  by_cases h : i < v.count <;> simp [elements, get?, Element.decode, h]

/-- Writes one element. An index past the end writes nothing. -/
def set {dtype : ElementType} (v : HostView dtype) (d : Device) (i : Nat) (x : Element dtype) :
    Device :=
  if i < v.count then
    d.store ⟨v.place.memory, v.place.offset + i * dtype.width⟩ (.ofBytes x.bytes)
  else d

end HostView

/-- What indexing an element runs into. -/
inductive IndexError where
  | access (error : TensorError)
  | outOfRange (length index : Nat)
  deriving DecidableEq, Repr

def IndexError.message : IndexError → String
  | access e => "Tensor access violation: " ++ e.message
  | outOfRange length index => s!"index out of bounds: the len is {length} but the index is {index}"

/-- Views a range as elements. Memories are aligned to eight bytes, so the offset decides whether an
element can start there. -/
def Tensor.viewRange (dtype : ElementType) (r : HostRange) : Except TensorError (HostView dtype) :=
  if r.place.offset % dtype.width = 0 then .ok ⟨r.place, r.length / dtype.width⟩
  else .error (.misalignedView dtype)

namespace Parts

def hostRange (p : Parts) (operation : String) : Except TensorError HostRange :=
  if !p.kind.isHostVisible then .error (.unsupportedForKind operation p.kind)
  else
    match p.mapping? with
    | some place => .ok ⟨place, p.byteSize⟩
    | none => .error .notInitialized

def checkType (p : Parts) (dtype : ElementType) : Except TensorError Unit :=
  if dtype = p.dtype then .ok () else .error (.dtypeMismatch p.dtype dtype)

/-- A view for reading. -/
def view (p : Parts) (dtype : ElementType) : Except TensorError (HostView dtype) := do
  let r ← p.hostRange "data"
  p.checkType dtype
  Tensor.viewRange dtype r

/-- A view for writing. Here the element type is checked first. -/
def viewMut (p : Parts) (dtype : ElementType) : Except TensorError (HostView dtype) := do
  p.checkType dtype
  let r ← p.hostRange "data_mut"
  Tensor.viewRange dtype r

def elements (p : Parts) (d : Device) (dtype : ElementType) :
    Except TensorError (List (Element dtype)) :=
  (p.view dtype).map (·.elements d)

/-- Overwrites every element. Nothing is written unless there is one for each. -/
def overwrite (p : Parts) (d : Device) {dtype : ElementType} (xs : List (Element dtype)) :
    Except TensorError Device := do
  p.checkType dtype
  let r ← p.hostRange "set_data"
  if xs.length = p.size then return d.store r.place (.ofBytes (Element.encode xs))
  else throw (.dimensionMismatch p.size xs.length)

/-- Overwrites every byte, whatever the element type. -/
def overwriteBytes (p : Parts) (d : Device) (data : Block) : Except TensorError Device := do
  let r ← p.hostRange "set_raw_data"
  if data.size = r.length then return d.store r.place data
  else throw (.dimensionMismatch r.length data.size)

def get (p : Parts) (d : Device) (i : Nat) : Except IndexError (Element p.dtype) :=
  match p.view p.dtype with
  | .error e => .error (.access e)
  | .ok v =>
    match v.get? d i with
    | some x => .ok x
    | none => .error (.outOfRange v.count i)

def put (p : Parts) (d : Device) (i : Nat) (x : Element p.dtype) : Except IndexError Device :=
  match p.viewMut p.dtype with
  | .error e => .error (.access e)
  | .ok v => if i < v.count then .ok (v.set d i x) else .error (.outOfRange v.count i)

end Parts

namespace Tensor

/-! A tensor answers what its parts do. The equations say so in terms of the tensor. -/

def hostRange (t : Tensor) (operation : String) : Except TensorError HostRange :=
  t.parts.hostRange operation

theorem hostRange_eq (t : Tensor) (operation : String) : t.hostRange operation =
    if !t.kind.isHostVisible then .error (.unsupportedForKind operation t.kind)
    else
      match t.mapping? with
      | some place => .ok ⟨place, t.byteSize⟩
      | none => .error .notInitialized := rfl

def checkType (t : Tensor) (dtype : ElementType) : Except TensorError Unit :=
  t.parts.checkType dtype

theorem checkType_eq (t : Tensor) (dtype : ElementType) : t.checkType dtype =
    if dtype = t.dtype then .ok () else .error (.dtypeMismatch t.dtype dtype) := rfl

def view (t : Tensor) (dtype : ElementType) : Except TensorError (HostView dtype) :=
  t.parts.view dtype

def viewMut (t : Tensor) (dtype : ElementType) : Except TensorError (HostView dtype) :=
  t.parts.viewMut dtype

def elements (t : Tensor) (d : Device) (dtype : ElementType) :
    Except TensorError (List (Element dtype)) := t.parts.elements d dtype

theorem elements_eq (t : Tensor) (d : Device) (dtype : ElementType) :
    t.elements d dtype = (t.view dtype).map (·.elements d) := rfl

def overwrite (t : Tensor) (d : Device) {dtype : ElementType} (xs : List (Element dtype)) :
    Except TensorError Device := t.parts.overwrite d xs

theorem overwrite_eq (t : Tensor) (d : Device) {dtype : ElementType} (xs : List (Element dtype)) :
    t.overwrite d xs = (do
      t.checkType dtype
      let r ← t.hostRange "set_data"
      if xs.length = t.size then return d.store r.place (.ofBytes (Element.encode xs))
      else throw (.dimensionMismatch t.size xs.length)) := rfl

def overwriteBytes (t : Tensor) (d : Device) (data : Block) : Except TensorError Device :=
  t.parts.overwriteBytes d data

theorem overwriteBytes_eq (t : Tensor) (d : Device) (data : Block) : t.overwriteBytes d data = (do
    let r ← t.hostRange "set_raw_data"
    if data.size = r.length then return d.store r.place data
    else throw (.dimensionMismatch r.length data.size)) := rfl

def get (t : Tensor) (d : Device) (i : Nat) : Except IndexError (Element t.dtype) :=
  t.parts.get d i

def put (t : Tensor) (d : Device) (i : Nat) (x : Element t.dtype) : Except IndexError Device :=
  t.parts.put d i x

/-- Nothing is mapped. -/
def isNull (t : Tensor) : Bool := t.mapping?.isNone

/-- The tensor as one of a known element type. -/
def ofType (t : Tensor) (dtype : ElementType) : Except TensorError Tensor :=
  (t.checkType dtype).map fun _ => t

end Tensor
end TensorMemory
