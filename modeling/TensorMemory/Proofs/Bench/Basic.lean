import TensorMemory.Proofs.Tensor.Exchange
import TensorMemory.Tensor.View

/-!
A bench: one device with all tensors on it, and a record of what was called for which tensor, what
was lent to it, and what the code around the tensors created. A run of the bench is any sequence of
tensor operations and of operations that go to the device past the tensors.
-/

namespace TensorMemory

/-- What a tensor can be asked to record. -/
inductive Recording where
  /-- A copy of the primary buffer of the tensor with this number. -/
  | copyFrom (source : Nat)
  | upload (scope : SyncScope)
  | download (scope : SyncScope)
  | primaryBarrier (source target : SyncScope)
  | stagingBarrier (source target : SyncScope)

/-- Tensors are numbered in the order in which they are built; a build that fails takes a number as
well. -/
inductive Action where
  | build (plan : TensorPlan)
  | rebuild (n : Nat) (data : Block) (size elementSize : Nat)
  | destroy (n : Nat)
  | drop (n : Nat)
  | overwrite (n : Nat) (dtype : ElementType) (xs : List (Element dtype))
  | overwriteBytes (n : Nat) (data : Block)
  | record (n : Nat) (traced : Bool) (commandBuffer : Handle) (recording : Recording)
  /-- Bytes written to the primary buffer on the device, as a shader would. -/
  | poke (n : Nat) (chunk : Block)
  | outside (op : Device.Operation)

/-- The assets that are there only after the operation. -/
def Device.Operation.created (op : Device.Operation) (d : Device) : List Asset :=
  (d.perform op).assets.filter fun a => a ∉ d.assets

structure Bench where
  gateway : Gateway
  tensors : Table Nat Tensor
  /-- Builds so far, failed ones included. -/
  built : Nat
  /-- The calls made for each tensor, in order. -/
  history : List (Nat × Call)
  /-- What was lent to each tensor. -/
  lent : List (Nat × Asset)
  /-- Assets created past the tensors and not released since. -/
  outside : List Asset

namespace Bench

def ofTypes (types : List Mask) (faults : Faults := .none) : Bench where
  gateway := .ofDevice (.ofTypes types) faults
  tensors := .empty
  built := 0
  history := []
  lent := []
  outside := []

/-- The gateway with the calls of earlier actions put away. -/
def entry (s : Bench) : Gateway := { s.gateway with calls := [] }

/-- Runs tensor code for one tensor. Nothing happens for a number that no tensor has. -/
def apply (s : Bench) (n : Nat) (f : Tensor → Gateway → Tensor × Gateway) : Bench :=
  match s.tensors.get? n with
  | none => s
  | some t =>
    let (t, g) := f t s.entry
    { s with
      gateway := g
      tensors := s.tensors.modify n fun _ => t
      history := s.history ++ g.calls.map fun c => (n, c) }

/-- Writes to the device for one tensor. -/
def rewrite (s : Bench) (n : Nat) (f : Tensor → Device → Device) : Bench :=
  s.apply n fun t g => (t, { g with device := f t g.device })

def performRecording (s : Bench) (traced : Bool) (commandBuffer : Handle) (t : Tensor)
    (g : Gateway) : Recording → Gateway
  | .copyFrom source =>
    match s.tensors.get? source with
    | none => g
    | some u => (t.recordCopyOf u g traced commandBuffer).2
  | .upload scope => (t.recordUpload g traced commandBuffer scope).2
  | .download scope => (t.recordDownload g traced commandBuffer scope).2
  | .primaryBarrier source target =>
    (t.recordPrimaryBarrier g traced commandBuffer source target).2
  | .stagingBarrier source target =>
    (t.recordStagingBarrier g traced commandBuffer source target).2

/-- Writes to the primary buffer of a tensor, which only a live one has. -/
def pokePrimary (t : Tensor) (chunk : Block) (d : Device) : Device :=
  match t.primary? with
  | none => d
  | some b => (d.write b.buffer.handle chunk).toOption.getD d

def build (s : Bench) (plan : TensorPlan) : Bench :=
  let n := s.built + 1
  let (r, g) := plan.build s.entry
  { s with
    gateway := g
    tensors := match r with
      | .ok t => s.tensors.insert n t
      | .error _ => s.tensors
    built := n
    history := s.history ++ g.calls.map fun c => (n, c)
    lent := s.lent ++ plan.loans.map fun a => (n, a) }

/-- Destroys a tensor and forgets it. -/
def drop (s : Bench) (n : Nat) : Bench :=
  let s := s.apply n Tensor.destroy
  { s with tensors := s.tensors.erase n }

/-- Performs an operation past the tensors. -/
def bypass (s : Bench) (op : Device.Operation) : Bench :=
  { s with
    gateway := s.gateway.advance (s.gateway.device.perform op)
    outside := (s.outside.filter fun a => a ∉ op.released) ++ op.created s.gateway.device }

def step (s : Bench) : Action → Bench
  | .build plan => s.build plan
  | .rebuild n data size elementSize =>
    s.apply n fun t g => (t.rebuild g data size elementSize).2
  | .destroy n => s.apply n Tensor.destroy
  | .drop n => s.drop n
  | .overwrite n _ xs => s.rewrite n fun t d => (t.overwrite d xs).toOption.getD d
  | .overwriteBytes n data => s.rewrite n fun t d => (t.overwriteBytes d data).toOption.getD d
  | .record n traced commandBuffer recording =>
    s.apply n fun t g => (t, s.performRecording traced commandBuffer t g recording)
  | .poke n chunk => s.rewrite n fun t d => pokePrimary t chunk d
  | .outside op => s.bypass op

/-- States that runs from `start` reach in which every action is allowed where it is taken. -/
inductive Reach (allowed : Bench → Action → Prop) (start : Bench) : Bench → Prop
  | refl : Reach allowed start start
  | step {s : Bench} (a : Action) (run : Reach allowed start s) (ok : allowed s a) :
      Reach allowed start (s.step a)

/-- What holds at the start and is kept by every action holds in every state. -/
theorem Reach.invariant {allowed : Bench → Action → Prop} {start s : Bench} {P : Bench → Prop}
    (h : Reach allowed start s) (h0 : P start)
    (hstep : ∀ s a, P s → allowed s a → P (s.step a)) : P s := by
  induction h with
  | refl => exact h0
  | step a _ ok ih => exact hstep _ a ih ok

/-! ## The calls of a run -/

def calls (s : Bench) : List Call := s.history.map Prod.snd

/-- The calls made for one tensor. -/
def callsOf (s : Bench) (n : Nat) : List Call :=
  (s.history.filter (·.1 = n)).map Prod.snd

/-- What a tensor owns; nothing for a number that no tensor has. -/
def holdings (s : Bench) (n : Nat) : List Asset := ((s.tensors.get? n).map Tensor.assets).getD []

/-- What a tensor maps for the host. -/
def mappings (s : Bench) (n : Nat) : List Asset := ((s.tensors.get? n).map Tensor.mapped).getD []

end Bench
end TensorMemory
