import TensorMemory.Tensor.Lifecycle

/-!
Building, rebuilding and destroying, one part after another. Each update touches one part and goes
by whether the others are there, so that nothing in these steps keeps a tensor from having a mapping
and no buffer, or a buffer and no device.
-/

namespace TensorMemory

namespace Parts

/-- A tensor on its device that has no resources yet. -/
def unallocated (kind : Placement) (dtype : ElementType) (size : Nat) : Parts where
  isAttached := true
  kind
  dtype
  size
  mapping? := none
  primary? := none
  staging? := none

/-- Creates and maps resources, and takes them over once all of them are there. -/
def createResources (p : Parts) (g : Gateway) (data : Option Block)
    (primary staging : Option LentBuffer) : Except TensorError Unit × Parts × Gateway :=
  match p.checkAttached with
  | .error e => (.error e, p, g)
  | .ok () =>
    match g.furnish p.kind p.dtype p.size data primary staging with
    | (.error e, g) => (.error e, p, g)
    | (.ok resources, g) =>
      let p := { p with primary? := some resources.backing.primary }
      let p := { p with staging? := resources.backing.staging }
      (.ok (), { p with mapping? := resources.mapping }, g)

/-- Gives the mapping up, and unmaps the buffer of the host-visible side if that is there. -/
def takeMapping (p : Parts) (g : Gateway) : Parts × Gateway :=
  match p.mapping? with
  | none => (p, g)
  | some _ =>
    let p := { p with mapping? := none }
    match (if p.kind = .device then p.staging? else p.primary?) with
    | some b => (p, g.unmap b.memory.handle)
    | none => (p, g)

/-- Releases a buffer that was taken out, and says what that frees and retains. -/
def releaseTaken (taken : Option BackedBuffer) (g : Gateway) : ReleaseTally × Gateway :=
  match taken with
  | some b => (b.tally, b.release g)
  | none => (.zero, g)

/-- Unmaps and releases what is there. The device stays. -/
def releaseResources (p : Parts) (g : Gateway) : ReleaseTally × Parts × Gateway :=
  if !p.isAttached then (.zero, p, g)
  else
    let (p, g) := p.takeMapping g
    let (ofPrimary, g) := releaseTaken p.primary? g
    let p := { p with primary? := none }
    let (ofStaging, g) := releaseTaken p.staging? g
    (ofPrimary + ofStaging, { p with staging? := none }, g)

def rebuild (p : Parts) (g : Gateway) (data : Block) (size elementSize : Nat) :
    Except TensorError Unit × Parts × Gateway :=
  if !p.isAttached then (.error .notInitialized, p, g)
  else
    match checkLayout p.dtype (some data.size) size elementSize with
    | .error e => (.error e, p, g)
    | .ok _ =>
      let (tally, p, g) := p.releaseResources g
      let g := g.tell (.rebuilding p.kind tally.freed size)
      { p with size }.createResources g (some data) none none

def rebuildElements (p : Parts) (g : Gateway) {dtype : ElementType} (xs : List (Element dtype)) :
    Except TensorError Unit × Parts × Gateway :=
  if xs.length < UInt32.size then p.rebuild g (.ofBytes (Element.encode xs)) xs.length dtype.width
  else (.error (.sizeOverflow (UInt32.size - 1) dtype.width), p, g)

def destroy (p : Parts) (g : Gateway) : Parts × Gateway :=
  if !p.isAttached then (p, g.tell (.alreadyDestroyed p.kind))
  else
    let (tally, p, g) := p.releaseResources g
    let p := { p with size := 0 }
    let p := { p with isAttached := false }
    (p, g.announceTeardown p.kind p.dtype tally)

end Parts

/-- Builds a tensor from its plan. One that gets no resources is dropped, which destroys it. -/
def TensorPlan.assemble (plan : TensorPlan) (g : Gateway) : Except TensorError Parts × Gateway :=
  match plan.layout with
  | .error e => (.error e, g)
  | .ok (size, byteSize) =>
    match (Parts.unallocated plan.kind plan.dtype size).createResources g plan.data plan.primary
      plan.staging with
    | (.error e, p, g) => (.error e, (p.destroy g).2)
    | (.ok (), p, g) => (.ok p, g.tell (plan.completed byteSize))

/-- A tensor of the elements. -/
def Parts.ofElements (g : Gateway) {dtype : ElementType} (xs : List (Element dtype))
    (kind : Placement) : Except TensorError Parts × Gateway :=
  if xs.length < UInt32.size then
    { dtype, kind, elements := some xs.length, elementSize := some dtype.width
      data := some (.ofBytes (Element.encode xs)) : TensorPlan }.assemble g
  else (.error (.sizeOverflow (UInt32.size - 1) dtype.width), g)

end TensorMemory
