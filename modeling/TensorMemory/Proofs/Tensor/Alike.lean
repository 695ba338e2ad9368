import TensorMemory.Tensor.Lifecycle

/-!
What an answer depends on. The calls and the notices of a gateway are a record that no operation
reads. So gateways that have the same device, and the same faults ahead of them, give the same
answers (`Alike.obtainBacking`), and whether new resources can be had does not depend on the data
that is written to them (`Alike.furnish`).
-/

namespace TensorMemory.Gateway

/-- The same device, and faults of which as many are used up. -/
structure Alike (g h : Gateway) : Prop where
  device : h.device = g.device
  faults : h.faults = g.faults
  served : h.served = g.served

/-- The same answer, with gateways that are alike again. -/
def Agree {α : Type} (x y : α × Gateway) : Prop :=
  ∃ r g h, x = (r, g) ∧ y = (r, h) ∧ Alike g h

namespace Alike

variable {g h : Gateway}

theorem tell (hg : Alike g h) (n m : Notice) : Alike (g.tell n) (h.tell m) :=
  ⟨hg.device, hg.faults, hg.served⟩

/-- Only the record tells them apart. -/
theorem eq_record (hg : Alike g h) : h = { g with calls := h.calls, notices := h.notices } := by
  obtain ⟨hd, hf, hs⟩ := hg
  cases h
  dsimp only at hd hf hs
  rw [hd, hf, hs]

theorem agree {α : Type} (hg : Alike g h) (r : α) : Agree (r, g) (r, h) :=
  ⟨r, g, h, rfl, rfl, hg⟩

/-! ## The calls -/

variable (hg : Alike g h)
include hg

theorem createBuffer (size : Nat) (usage : Mask) :
    Agree (g.createBuffer size usage) (h.createBuffer size usage) := by
  rw [hg.eq_record]
  unfold Gateway.createBuffer
  dsimp only
  cases g.faults.createBuffer g.served.createBuffer <;>
    exact ⟨_, _, _, rfl, rfl, rfl, rfl, rfl⟩

theorem allocate (size typeIndex : Nat) :
    Agree (g.allocate size typeIndex) (h.allocate size typeIndex) := by
  rw [hg.eq_record]
  unfold Gateway.allocate
  dsimp only
  cases g.faults.allocate g.served.allocate <;> exact ⟨_, _, _, rfl, rfl, rfl, rfl, rfl⟩

theorem requirements (buffer : Handle) :
    Agree (g.requirements buffer) (h.requirements buffer) := by
  rw [hg.eq_record]
  exact ⟨_, _, _, rfl, rfl, rfl, rfl, rfl⟩

theorem bind (buffer memory : Handle) (offset : Nat) :
    Agree (g.bind buffer memory offset) (h.bind buffer memory offset) := by
  rw [hg.eq_record]
  unfold Gateway.bind
  dsimp only
  cases g.faults.bind g.served.bind <;> exact ⟨_, _, _, rfl, rfl, rfl, rfl, rfl⟩

theorem map (memory : Handle) (offset size : Nat) :
    Agree (g.map memory offset size) (h.map memory offset size) := by
  rw [hg.eq_record]
  unfold Gateway.map
  dsimp only
  cases g.faults.map g.served.map with
  | none => exact ⟨_, _, _, rfl, rfl, rfl, rfl, rfl⟩
  | some fault => cases fault <;> exact ⟨_, _, _, rfl, rfl, rfl, rfl, rfl⟩

theorem destroyBuffer (buffer : Handle) :
    Alike (g.destroyBuffer buffer) (h.destroyBuffer buffer) := by
  rw [hg.eq_record]
  exact ⟨rfl, rfl, rfl⟩

theorem freeMemory (memory : Handle) : Alike (g.freeMemory memory) (h.freeMemory memory) := by
  rw [hg.eq_record]
  exact ⟨rfl, rfl, rfl⟩

/-! ## Obtaining resources -/

theorem provideMemory (buffer : Handle) (need : BufferNeed) :
    Agree (g.provideMemory buffer need) (h.provideMemory buffer need) := by
  unfold Gateway.provideMemory
  obtain ⟨required, g₁, h₁, hx, hy, a₁⟩ := hg.requirements buffer
  rw [hx, hy]
  dsimp only
  rw [a₁.device]
  cases g₁.device.properties.select required.typeBits need.memoryFlags with
  | none => exact a₁.agree _
  | some typeIndex =>
  dsimp only
  obtain ⟨r, g₂, h₂, hx, hy, a₂⟩ := a₁.allocate required.size typeIndex
  rw [hx, hy]
  cases r with
  | error s => exact a₂.agree _
  | ok memory =>
  dsimp only
  obtain ⟨r, g₃, h₃, hx, hy, a₃⟩ := a₂.bind buffer memory 0
  rw [hx, hy]
  cases r with
  | error s => exact (a₃.freeMemory memory).agree _
  | ok u => exact (a₃.tell _ _).agree _

theorem createBacked (size : Nat) (need : BufferNeed) :
    Agree (g.createBacked size need) (h.createBacked size need) := by
  unfold Gateway.createBacked
  obtain ⟨r, g₁, h₁, hx, hy, a₁⟩ := hg.createBuffer size need.usage
  rw [hx, hy]
  cases r with
  | error s => exact a₁.agree _
  | ok buffer =>
  dsimp only
  obtain ⟨r, g₂, h₂, hx, hy, a₂⟩ := a₁.provideMemory buffer need
  rw [hx, hy]
  cases r with
  | error e => exact (a₂.destroyBuffer buffer).agree _
  | ok memory => exact a₂.agree _

theorem obtainBacked (size : Nat) (need : BufferNeed) (lent : Option LentBuffer) :
    Agree (g.obtainBacked size need lent) (h.obtainBacked size need lent) := by
  cases lent with
  | some l => exact hg.agree _
  | none => exact hg.createBacked size need

theorem release (b : BackedBuffer) : Alike (b.release g) (b.release h) := by
  unfold BackedBuffer.release
  split <;> split
  · exact (hg.destroyBuffer _).freeMemory _
  · exact hg.destroyBuffer _
  · exact hg.freeMemory _
  · exact hg

theorem obtainBacking (kind : Placement) (size : Nat) (primary staging : Option LentBuffer) :
    Agree (g.obtainBacking kind size primary staging)
      (h.obtainBacking kind size primary staging) := by
  unfold Gateway.obtainBacking
  split
  · exact hg.agree _
  obtain ⟨r, g₁, h₁, hx, hy, a₁⟩ := hg.obtainBacked size kind.needs.primary primary
  rw [hx, hy]
  cases r with
  | error e => exact a₁.agree _
  | ok first =>
  dsimp only
  cases kind.needs.staging with
  | none => exact a₁.agree _
  | some need =>
  dsimp only
  obtain ⟨r, g₂, h₂, hx, hy, a₂⟩ := a₁.obtainBacked size need staging
  rw [hx, hy]
  cases r with
  | error e => exact (a₂.release first).agree _
  | ok second => exact a₂.agree _

/-- Data is written once the memory is mapped, and that cannot fail. -/
theorem mapAndFill (b : BackedBuffer) (size : Nat) (data data' : Option Block) :
    (h.mapAndFill b size data').1 = (g.mapAndFill b size data).1 := by
  have answer (g : Gateway) (data : Option Block) : (g.mapAndFill b size data).1 =
      match (g.map b.memory.handle 0 size).1 with
      | .error s => .error (.backend "vkMapMemory" s)
      | .ok none => .error (.backend "vkMapMemory" .memoryMapFailed)
      | .ok (some place) => .ok place := by
    unfold Gateway.mapAndFill
    dsimp only
    rcases g.map b.memory.handle 0 size with ⟨s | _ | place, g₁⟩
    · rfl
    · rfl
    · cases data with
      | some data => rfl
      | none =>
        dsimp only
        split <;> rfl
  obtain ⟨r, g₁, h₁, hx, hy, -⟩ := hg.map b.memory.handle 0 size
  rw [answer, answer, hx, hy]

theorem furnish (kind : Placement) (dtype : ElementType) (size : Nat) (data data' : Option Block)
    (primary staging : Option LentBuffer) :
    (h.furnish kind dtype size data' primary staging).1 =
      (g.furnish kind dtype size data primary staging).1 := by
  unfold Gateway.furnish
  dsimp only
  obtain ⟨r, g₁, h₁, hx, hy, a₁⟩ := hg.obtainBacking kind (size * dtype.width) primary staging
  rw [hx, hy]
  cases r with
  | error e => rfl
  | ok backing =>
  dsimp only
  cases backing.hostSide kind with
  | none => rfl
  | some b =>
  dsimp only
  have hm := a₁.mapAndFill b (size * dtype.width) data data'
  revert hm
  rcases g₁.mapAndFill b (size * dtype.width) data with ⟨r, g₂⟩
  rcases h₁.mapAndFill b (size * dtype.width) data' with ⟨r', h₂⟩
  rintro rfl
  cases r' <;> rfl

end Alike
end TensorMemory.Gateway
