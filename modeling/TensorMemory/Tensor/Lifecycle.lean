import TensorMemory.Tensor.Basic

/-!
Building, rebuilding and destroying. What was created is announced once it is complete, and
destroying announces what it frees and what it leaves to its owner.
-/

namespace TensorMemory

/-- Creates and maps the resources of a tensor with a valid layout. -/
def Gateway.furnish (g : Gateway) (kind : Placement) (dtype : ElementType) (size : Nat)
    (data : Option Block) (primary staging : Option LentBuffer) :
    Except TensorError Resources × Gateway :=
  let byteSize := size * dtype.width
  let announce (g : Gateway) (backing : Backing) : Gateway :=
    let owned := backing.ownedCount
    let g := g.tell (.debug "vulkanic::tensor" "tensor resources created"
      [("kind", .plain kind.name), ("dtype", .plain dtype.name), ("elements", .nat size),
        ("memory_size", .nat byteSize), ("owned_handles", .nat owned)])
    g.tell (.metric (.allocated kind.name dtype.name (.ofNat size)
      (.ofNat (backing.ownedBytes kind false byteSize))
      (.ofNat (backing.ownedBytes kind true byteSize)) (.ofNat owned)))
  match g.obtainBacking kind byteSize primary staging with
  | (.error e, g) => (.error e, g)
  | (.ok backing, g) =>
    match backing.hostSide kind with
    | none =>
      let g :=
        if data.isSome then
          g.tell (.debug "vulkanic::tensor" "storage tensor skips initial host upload"
            [("kind", .plain kind.name)])
        else g
      (.ok ⟨backing, none⟩, announce g backing)
    | some backed =>
      match g.mapAndFill backed byteSize data with
      | (.error e, g) => (.error e, backing.release g)
      | (.ok place, g) => (.ok ⟨backing, some place⟩, announce g backing)

namespace Notice

def rebuilding (kind : Placement) (freed size : Nat) : Notice :=
  .debug "vulkanic::tensor" "rebuilding tensor"
    [("kind", .plain kind.name), ("freed", .nat freed), ("new_size", .nat size)]

def alreadyDestroyed (kind : Placement) : Notice :=
  .debug "vulkanic::tensor" "tensor already destroyed" [("kind", .plain kind.name)]

end Notice

/-- Announces what a tensor gave up on being destroyed, unless that is nothing. -/
def Gateway.announceTeardown (g : Gateway) (kind : Placement) (dtype : ElementType)
    (tally : ReleaseTally) : Gateway :=
  if 0 < tally.total then
    (g.tell (.debug "vulkanic::tensor" "tensor destroyed"
      [("kind", .plain kind.name), ("freed", .nat tally.freed),
        ("retained", .nat tally.retained)])).tell
      (.metric (.released kind.name dtype.name (.ofNat tally.freed) (.ofNat tally.retained)))
  else g

/-- Unmaps and releases what a tensor of a placement holds. -/
def Resources.release (r : Resources) (kind : Placement) (g : Gateway) : Gateway :=
  let g :=
    match r.mapping, r.backing.hostSide kind with
    | some _, some backed => g.unmap backed.memory.handle
    | _, _ => g
  r.backing.release g

/-- A tensor to be built. What is lent is borrowed, and all else is created. -/
structure TensorPlan where
  dtype : ElementType
  kind : Placement
  elements : Option Nat := none
  /-- The element type's width unless given. -/
  elementSize : Option Nat := none
  data : Option Block := none
  primary : Option LentBuffer := none
  staging : Option LentBuffer := none

namespace TensorPlan

/-- The number of elements: as given, or as many as the data holds. -/
def elementCount (plan : TensorPlan) : Except TensorError Nat :=
  let elementSize := plan.elementSize.getD plan.dtype.width
  match plan.elements, plan.data with
  | some n, _ => .ok n
  | none, some data =>
    if elementSize = plan.dtype.width then
      let n := data.size / elementSize
      if n < UInt32.size then .ok n else .error (.sizeOverflow (UInt32.size - 1) elementSize)
    else .ok 0
  | none, none => .error .emptyTensor

/-- The number of elements and the bytes they take, or what is wrong with the layout. -/
def layout (plan : TensorPlan) : Except TensorError (Nat × Nat) :=
  match plan.elementCount with
  | .error e => .error e
  | .ok n =>
    let elementSize := plan.elementSize.getD plan.dtype.width
    (checkLayout plan.dtype (plan.data.map Block.size) n elementSize).map fun byteSize =>
      (n, byteSize)

/-- Tells of a tensor that was built. -/
def completed (plan : TensorPlan) (byteSize : Nat) : Notice :=
  .debug "vulkanic::tensor::builder" "tensor built"
    [("kind", .plain plan.kind.name), ("memory_size", .nat byteSize),
      ("borrowed_primary", .bool plan.primary.isSome),
      ("borrowed_staging", .bool plan.staging.isSome)]

def build (plan : TensorPlan) (g : Gateway) : Except TensorError Tensor × Gateway :=
  match plan.layout with
  | .error e => (.error e, g)
  | .ok (size, byteSize) =>
    match g.furnish plan.kind plan.dtype size plan.data plan.primary plan.staging with
    | (.error e, g) => (.error e, g)
    | (.ok resources, g) =>
      (.ok ⟨plan.kind, plan.dtype, size, .live resources⟩, g.tell (plan.completed byteSize))

end TensorPlan

namespace Tensor

/-- A tensor of `size` elements that holds the data. -/
def create (g : Gateway) (data : Block) (size elementSize : Nat) (dtype : ElementType)
    (kind : Placement) : Except TensorError Tensor × Gateway :=
  { dtype, kind, elements := some size, elementSize := some elementSize, data := some data :
    TensorPlan }.build g

/-- A tensor of the elements. -/
def ofElements (g : Gateway) {dtype : ElementType} (xs : List (Element dtype)) (kind : Placement) :
    Except TensorError Tensor × Gateway :=
  if xs.length < UInt32.size then
    create g (.ofBytes (Element.encode xs)) xs.length dtype.width dtype kind
  else (.error (.sizeOverflow (UInt32.size - 1) dtype.width), g)

/-- What releasing the tensor's resources frees and retains. -/
def releaseTally (t : Tensor) : ReleaseTally :=
  (t.resources?.map (·.backing.tally)).getD .zero

def releaseHoldings (t : Tensor) (g : Gateway) : Gateway :=
  match t.residence with
  | .live r => r.release t.kind g
  | _ => g

/-- Replaces contents and size. The old resources go first, so a tensor whose new ones cannot be
created is left vacant, with its new size. -/
def rebuild (t : Tensor) (g : Gateway) (data : Block) (size elementSize : Nat) :
    Except TensorError Unit × Tensor × Gateway :=
  if !t.isAttached then (.error .notInitialized, t, g)
  else
    match checkLayout t.dtype (some data.size) size elementSize with
    | .error e => (.error e, t, g)
    | .ok _ =>
      let g := (t.releaseHoldings g).tell (.rebuilding t.kind t.releaseTally.freed size)
      match g.furnish t.kind t.dtype size (some data) none none with
      | (.error e, g) => (.error e, { t with size, residence := .vacant }, g)
      | (.ok resources, g) => (.ok (), { t with size, residence := .live resources }, g)

def rebuildElements (t : Tensor) (g : Gateway) {dtype : ElementType} (xs : List (Element dtype)) :
    Except TensorError Unit × Tensor × Gateway :=
  if xs.length < UInt32.size then t.rebuild g (.ofBytes (Element.encode xs)) xs.length dtype.width
  else (.error (.sizeOverflow (UInt32.size - 1) dtype.width), t, g)

/-- Releases everything and detaches the tensor. A second time does nothing. -/
def destroy (t : Tensor) (g : Gateway) : Tensor × Gateway :=
  if !t.isAttached then (t, g.tell (.alreadyDestroyed t.kind))
  else
    ({ t with size := 0, residence := .detached },
      (t.releaseHoldings g).announceTeardown t.kind t.dtype t.releaseTally)

end Tensor
end TensorMemory
