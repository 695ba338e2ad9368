import TensorMemory.Proofs.Bench.Basic
import TensorMemory.Proofs.Tensor.Contents

/-!
A machine of cells: all that the tensors of a device are to whoever sees bytes only. Every tensor
has a cell on the device's side and one on the host's. A tensor in host memory has both in one, and
one in storage has no other than the device's. Recorded transfers between cells wait until they are
submitted. There are no handles, bindings or mappings here, and nothing fails but for want of
resources, which the machine is told (`acquired`).
-/

namespace TensorMemory

structure Cell where
  tensor : Nat
  side : Side
  deriving DecidableEq, Repr

abbrev Cells := Cell → Bytes

/-- Writes bytes over the start of a cell. -/
def Cells.put (cells : Cells) (c : Cell) (bytes : Bytes) : Cells := fun c' =>
  if c' = c then bytes ++ (cells c).drop bytes.length else cells c'

/-- The first `size` bytes of one cell go to the start of another. -/
structure Transfer where
  source : Cell
  target : Cell
  size : Nat
  deriving DecidableEq, Repr

def Cells.transfer (cells : Cells) (x : Transfer) : Cells :=
  cells.put x.target ((cells x.source).take x.size)

inductive Stage where
  | live
  | vacant
  | detached
  deriving DecidableEq, Repr

/-- A tensor without its handles. -/
structure Outline where
  kind : Placement
  dtype : ElementType
  size : Nat
  stage : Stage
  deriving DecidableEq, Repr

namespace Outline

/-- Bytes of each cell. -/
def byteSize (o : Outline) : Nat := o.size * o.dtype.width

def isLive (o : Outline) : Bool := o.stage = .live

def detach (o : Outline) : Outline :=
  if o.stage = .detached then o else { o with size := 0, stage := .detached }

/-- Buffers that serve transfers are on the device's side of both. -/
def Copyable (o p : Outline) : Prop :=
  o.isLive = true ∧ p.isLive = true ∧ o.kind ≠ .storage ∧ p.kind ≠ .storage

instance (o p : Outline) : Decidable (o.Copyable p) := inferInstanceAs (Decidable (_ ∧ _))

end Outline

structure Machine where
  /-- Builds so far, failed ones included. -/
  built : Nat
  outlines : Nat → Option Outline
  cells : Cells
  waiting : Handle → List Transfer

namespace Machine

def initial : Machine where
  built := 0
  outlines _ := none
  cells _ := []
  waiting _ := []

def setOutline (m : Machine) (n : Nat) (o : Option Outline) : Machine :=
  { m with outlines := fun k => if k = n then o else m.outlines k }

/-- The tensor gets new cells. -/
def furnish (m : Machine) (n : Nat) (o : Outline) (data : Option Block) : Machine :=
  { m.setOutline n (some o) with
    cells := fun c =>
      if c.tensor = n then o.kind.fresh o.byteSize data c.side else m.cells c }

def build (m : Machine) (acquired : Bool) (plan : TensorPlan) : Machine :=
  let n := m.built + 1
  match plan.layout with
  | .error _ => { m with built := n }
  | .ok (size, _) =>
    if acquired then
      { m with built := n }.furnish n ⟨plan.kind, plan.dtype, size, .live⟩ plan.data
    else { m with built := n }

/-- The old cells are lost also where no new ones can be had. -/
def rebuild (m : Machine) (acquired : Bool) (n : Nat) (data : Block) (size elementSize : Nat) :
    Machine :=
  match m.outlines n with
  | none => m
  | some o =>
    if o.stage = .detached then m
    else
      match checkLayout o.dtype (some data.size) size elementSize with
      | .error _ => m
      | .ok _ =>
        if acquired then m.furnish n { o with size, stage := .live } (some data)
        else m.setOutline n (some { o with size, stage := .vacant })

/-- Writes to the cell that the host sees, if there is one and the bytes are fit for it. -/
def writeHost (m : Machine) (n : Nat) (fit : Outline → Bool) (bytes : Bytes) : Machine :=
  match m.outlines n with
  | none => m
  | some o =>
    match o.kind.hostSide? with
    | none => m
    | some side =>
      if o.isLive && fit o then { m with cells := m.cells.put ⟨n, side⟩ bytes } else m

section

variable {m : Machine} {n : Nat} {o : Outline} (ho : m.outlines n = some o)
include ho

theorem writeHost_hidden (hside : o.kind.hostSide? = none) (fit : Outline → Bool) (bytes : Bytes) :
    m.writeHost n fit bytes = m := by
  simp only [writeHost, ho, hside]

theorem writeHost_seen {side : Side} (hside : o.kind.hostSide? = some side)
    (fit : Outline → Bool) (bytes : Bytes) :
    m.writeHost n fit bytes =
      if o.isLive && fit o then { m with cells := m.cells.put ⟨n, side⟩ bytes } else m := by
  simp only [writeHost, ho, hside]

end

def writeDevice (m : Machine) (n : Nat) (bytes : Bytes) : Machine :=
  match m.outlines n with
  | none => m
  | some o =>
    if o.isLive && bytes.length ≤ o.byteSize then
      { m with cells := m.cells.put ⟨n, .device⟩ bytes }
    else m

/-- The transfers that a recording for a live tensor stands for; barriers move nothing. -/
def transfersOf (m : Machine) (n : Nat) (o : Outline) : Recording → List Transfer
  | .copyFrom source =>
    match m.outlines source with
    | none => []
    | some p =>
      if o.Copyable p ∧ source ≠ n then
        [⟨⟨source, .device⟩, ⟨n, .device⟩, min p.byteSize o.byteSize⟩]
      else []
  | .upload _ => if o.kind.isStaged then [⟨⟨n, .host⟩, ⟨n, .device⟩, o.byteSize⟩] else []
  | .download _ => if o.kind.isStaged then [⟨⟨n, .device⟩, ⟨n, .host⟩, o.byteSize⟩] else []
  | .primaryBarrier _ _ => []
  | .stagingBarrier _ _ => []

def transfers (m : Machine) (n : Nat) (r : Recording) : List Transfer :=
  match m.outlines n with
  | none => []
  | some o => if o.isLive then m.transfersOf n o r else []

/-- Recording changes no cell. -/
def record (m : Machine) (n : Nat) (commandBuffer : Handle) (r : Recording) : Machine :=
  { m with waiting := fun k =>
      m.waiting k ++ (if k = commandBuffer then m.transfers n r else []) }

/-- The transfers that wait are made in order. -/
def submit (m : Machine) (commandBuffer : Handle) : Machine :=
  { m with
    cells := (m.waiting commandBuffer).foldl Cells.transfer m.cells
    waiting := fun k => if k = commandBuffer then [] else m.waiting k }

def step (m : Machine) (acquired : Bool) : Action → Machine
  | .build plan => m.build acquired plan
  | .rebuild n data size elementSize => m.rebuild acquired n data size elementSize
  | .destroy n => m.setOutline n ((m.outlines n).map Outline.detach)
  | .drop n => m.setOutline n none
  | .overwrite n dtype xs =>
    m.writeHost n (fun o => dtype = o.dtype ∧ xs.length = o.size) (Element.encode xs)
  | .overwriteBytes n data => m.writeHost n (fun o => data.size = o.byteSize) data.toBytes
  | .record n _ commandBuffer recording => m.record n commandBuffer recording
  | .poke n chunk => m.writeDevice n chunk.toBytes
  | .outside (.submit commandBuffer) => m.submit commandBuffer
  | .outside _ => m

theorem setOutline_same {m : Machine} {n : Nat} {o : Option Outline} (h : m.outlines n = o) :
    m.setOutline n o = m := by
  have ho : (fun k => if k = n then o else m.outlines k) = m.outlines := by
    funext k
    split
    · next hk => rw [hk, h]
    · rfl
  rw [setOutline, ho]

theorem record_none {m : Machine} {n : Nat} (h : m.outlines n = none) (commandBuffer : Handle)
    (r : Recording) : m.record n commandBuffer r = m := by
  have hw : (fun k => m.waiting k ++ (if k = commandBuffer then m.transfers n r else [])) =
      m.waiting := by
    funext k
    rw [transfers, h, ite_self, List.append_nil]
  rw [record, hw]

theorem rebuild_refused {m : Machine} {acquired : Bool} {n : Nat} {o : Outline} {data : Block}
    {size elementSize : Nat} (ho : m.outlines n = some o)
    (h : o.stage = .detached ∨ ∃ e, checkLayout o.dtype (some data.size) size elementSize =
      .error e) : m.rebuild acquired n data size elementSize = m := by
  rw [rebuild, ho]
  dsimp only
  rcases h with hd | ⟨e, hl⟩
  · rw [if_pos hd]
  · rw [hl]
    split <;> rfl

theorem rebuild_granted {m : Machine} {acquired : Bool} {n byteSize : Nat} {o : Outline}
    {data : Block} {size elementSize : Nat} (ho : m.outlines n = some o)
    (hd : ¬ o.stage = .detached)
    (hl : checkLayout o.dtype (some data.size) size elementSize = .ok byteSize) :
    m.rebuild acquired n data size elementSize =
      if acquired then m.furnish n { o with size, stage := .live } (some data)
      else m.setOutline n (some { o with size, stage := .vacant }) := by
  rw [rebuild, ho]
  dsimp only
  rw [if_neg hd, hl]

end Machine
end TensorMemory
