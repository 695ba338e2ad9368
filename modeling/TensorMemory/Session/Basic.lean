import TensorMemory.Session.Answer

/-!
Sessions: devices behind their gateways, tensors in slots, an environment with its guards, the cell
of the global configuration, and the collector that all events go to.
-/

namespace TensorMemory

structure Slot where
  device : Nat
  tensor : Tensor
  /-- The host-visible memory that the tensor was lent, until it gets memory of its own. -/
  lent : Option Handle
  /-- The tensor is known to hold elements of its type. -/
  typed : Bool

structure HeldGuard where
  guard : Guard
  value : Option Setting

structure Session where
  gateways : List Gateway
  slots : Table Nat Slot
  /-- Handles that steps gave a name to. -/
  names : Table String Handle
  /-- Memories mapped by a step rather than by a tensor. -/
  mappedByStep : List (Nat × Handle)
  environment : Environment
  guards : Table Nat HeldGuard
  configuration : ConfigurationCell
  collector : Collector
  /-- Calls of the current step, in order. -/
  calls : List (Nat × Call)

namespace Session

def start (gateways : List Gateway) (isScoped : Bool) : Session where
  gateways
  slots := .empty
  names := .empty
  mappedByStep := []
  environment := .empty
  guards := .empty
  configuration := none
  collector := .start isScoped
  calls := []

def device? (s : Session) (i : Nat) : Option Device := s.gateways[i]?.map (·.device)

def tracesCommands (s : Session) : Bool :=
  TensorMemory.tracesCommands s.environment s.configuration

def announce (s : Session) (events : List Event) : Session :=
  { s with collector := s.collector.dispatchAll events }

/-- Runs an operation at a gateway, then takes over what it called and announced. Without such a
gateway nothing happens. -/
def useGateway {α : Type} (s : Session) (i : Nat) (absent : α) (f : Gateway → α × Gateway) :
    α × Session :=
  match s.gateways[i]? with
  | none => (absent, s)
  | some g =>
    let (a, g) := f { g with calls := [], notices := [] }
    let s :=
      { s with
        gateways := s.gateways.set i { g with calls := [], notices := [] }
        calls := s.calls ++ g.calls.map fun c => (i, c) }
    (a, s.announce (g.notices.map Notice.event))

/-- Runs an operation of the device itself, past the faults of its gateway and unlisted among its
calls. -/
def useDevice {α : Type} (s : Session) (i : Nat) (absent : α) (f : Device → α × Device) :
    α × Session :=
  s.useGateway i absent fun g =>
    let (a, d) := f g.device
    (a, g.advance d)

/-- The answer of a step on a device that there is not. -/
def answerAbsent (s : Session) (i : Nat) : Answer :=
  .failure (.index (.outOfRange s.gateways.length i))

/-- The handle that a reference stands for. -/
def resolve (s : Session) : HandleRef → Except Failure Handle
  | .literal h => .ok h
  | .named name =>
    match s.names.get? name with
    | some h => .ok h
    | none => .error .malformed
  | .primaryOf slot =>
    match s.slots.get? slot with
    | some slot => (slot.tensor.descriptor.map (·.1)).mapError .tensor
    | none => .error .malformed

/-- Binds names to handles in order. -/
def bindNames (s : Session) (names : List String) (handles : List Handle) : Session :=
  (names.zip handles).foldl (fun s (n, h) => { s with names := s.names.insert n h }) s

/-- Keeps the tensor of a slot. -/
def setTensor (s : Session) (slot : Nat) (t : Tensor) : Session :=
  { s with slots := s.slots.modify slot fun sl => { sl with tensor := t } }

/-- Destroys a tensor that no slot keeps any more. -/
def dropTensor (s : Session) (slot : Slot) : Session :=
  (s.useGateway slot.device () fun g => ((), (slot.tensor.destroy g).2)).2

/-- Puts a tensor into a slot, then drops the one that was there. -/
def place (s : Session) (slot : Nat) (new : Slot) : Session :=
  let old := s.slots.get? slot
  let s := { s with slots := s.slots.insert slot new }
  match old with
  | some old => s.dropTensor old
  | none => s

def counts (s : Session) : List DeviceCounts :=
  s.gateways.map fun g =>
    ⟨g.device.buffers.size, g.device.memories.size, g.device.buffersDestroyed,
      g.device.memoriesFreed⟩

/-- What a list of the devices has gained since an earlier session. -/
def gained {α : Type} (old new : Session) (list : Device → List α) : List (Nat × α) :=
  (List.range new.gateways.length).flatMap fun i =>
    let before := ((old.device? i).map fun d => (list d).length).getD 0
    let now := ((new.device? i).map list).getD []
    (now.drop before).map fun a => (i, a)

end Session
end TensorMemory
