import TensorMemory.Proofs.Bench.Mirror
import TensorMemory.Proofs.Tensor.Lifetime

/-!
Refinement of the synchronization protocol. Along every run in which nothing is lent and no tensor
changes while a copy waits that names it, submissions succeed, and the bytes seen through the
tensors and in their buffers are those of the cells of a machine that takes the same actions
(`refinement`).
-/

namespace TensorMemory

namespace Bench

/-- A bench and a machine that have taken the same actions. -/
inductive Lockstep (types : List Mask) : Bench → Machine → Prop
  | start : Lockstep types (.ofTypes types) .initial
  | step {s : Bench} {m : Machine} (a : Action) (run : Lockstep types s m) (ok : Closed s a) :
      Lockstep types (s.step a) (m.step (s.acquires a) a)

theorem Lockstep.mirrors {types : List Mask} {s : Bench} {m : Machine} (h : Lockstep types s m) :
    Mirrors s m := by
  induction h with
  | start => exact .initial types
  | step a _ ok ih => exact ih.step ok

/-- The machine follows every run. -/
theorem exists_lockstep {types : List Mask} {s : Bench} (h : Reach Closed (.ofTypes types) s) :
    ∃ m, Lockstep types s m := by
  induction h with
  | refl => exact ⟨_, .start⟩
  | step a _ ok ih =>
    obtain ⟨m, hm⟩ := ih
    exact ⟨_, .step a hm ok⟩

/-- What is seen of the bench is what the machine has. -/
structure Agrees (s : Bench) (m : Machine) : Prop where
  submits : ∀ commandBuffer, s.gateway.device.commandBuffers.contains commandBuffer = true →
    (s.gateway.device.submit commandBuffer).1 = .ok ()
  outlines : ∀ n, m.outlines n = (s.tensors.get? n).map Tensor.outline
  /-- The bytes that the host sees, and the elements in them. -/
  host : ∀ {n t σ}, s.tensors.get? n = some t → t.outline.isLive = true →
    t.kind.hostSide? = some σ → (m.cells ⟨n, σ⟩).length = t.byteSize ∧
      (∀ operation, ∃ place, t.hostRange operation = .ok ⟨place, t.byteSize⟩ ∧
        (s.gateway.device.load place t.byteSize).toBytes = m.cells ⟨n, σ⟩) ∧
      t.elements s.gateway.device t.dtype =
        .ok (Element.decode t.dtype t.size (.ofBytes (m.cells ⟨n, σ⟩)))
  primary : ∀ {n t b}, s.tensors.get? n = some t → t.primary? = some b →
    (m.cells ⟨n, .device⟩).length = t.byteSize ∧ ∀ length ≤ t.byteSize,
      ∃ block, s.gateway.device.read b.buffer.handle length = .ok block ∧
        block.toBytes = (m.cells ⟨n, .device⟩).take length
  staging : ∀ {n t b}, s.tensors.get? n = some t → t.staging? = some b →
    (m.cells ⟨n, .host⟩).length = t.byteSize ∧ ∀ length ≤ t.byteSize,
      ∃ block, s.gateway.device.read b.buffer.handle length = .ok block ∧
        block.toBytes = (m.cells ⟨n, .host⟩).take length

namespace Mirrors

variable {s : Bench} {m : Machine} {n : Nat} {t : Tensor} {c : Cell} {b : BackedBuffer}

theorem read (h : Mirrors s m) (hb : Behind s.tensors c t b) {length : Nat}
    (hl : length ≤ t.byteSize) : ∃ block, s.gateway.device.read b.buffer.handle length = .ok block ∧
      block.toBytes = (m.cells c).take length := by
  obtain ⟨need, hn, -⟩ := h.laid.bound hb
  refine ⟨_, ?_, h.laid.load hb hl⟩
  rw [Device.read, h.laid.locate hb hn (Mask.contains_empty _) hl]
  rfl

theorem load_cell (h : Mirrors s m) (hb : Behind s.tensors c t b) :
    (s.gateway.device.load ⟨b.memory.handle, 0⟩ t.byteSize).toBytes = m.cells c := by
  rw [h.laid.load hb (Nat.le_refl _), ← h.laid.length_cell hb, List.take_length]

theorem elements (h : Mirrors s m) (hb : Behind s.tensors c t b)
    (hr : t.hostRange "data" = .ok ⟨⟨b.memory.handle, 0⟩, t.byteSize⟩) :
    t.elements s.gateway.device t.dtype =
      .ok (Element.decode t.dtype t.size (.ofBytes (m.cells c))) := by
  refine (Tensor.elements_of_range _ hr (Nat.zero_mod _)).trans ?_
  refine congrArg Except.ok (Element.decode_congr ?_ _)
  rw [Block.toBytes_ofBytes, h.load_cell hb]

theorem agrees (h : Mirrors s m) : Agrees s m where
  submits commandBuffer hk := by
    obtain ⟨d, hd, -⟩ := h.submit_spec hk
    rw [hd]
  outlines := h.outlines
  host ht hlive hσ := by
    obtain ⟨b, hb, hr⟩ := h.hostRange_live ht hlive hσ
    refine ⟨h.laid.length_cell hb, fun operation => ⟨_, hr operation, h.load_cell hb⟩, ?_⟩
    exact h.elements hb (hr "data")
  primary {n t b} ht hb := by
    obtain ⟨r, hr, rfl⟩ := Option.map_eq_some_iff.mp hb
    have hbehind := behind_primary ht (Tensor.resources?_eq_some.mp hr)
    exact ⟨h.laid.length_cell hbehind, fun length hl => h.read hbehind hl⟩
  staging {n t b} ht hb := by
    obtain ⟨r, hr, hs⟩ := Option.bind_eq_some_iff.mp hb
    have hbehind : Behind s.tensors ⟨n, .host⟩ t b :=
      ⟨ht, r, Tensor.resources?_eq_some.mp hr, hs⟩
    exact ⟨h.laid.length_cell hbehind, fun length hl => h.read hbehind hl⟩

end Mirrors

/-- Whichever way a bench has come, a machine has come with it; and of any that has, submissions
succeed and the bytes behind the tensors are those of the machine's cells. -/
theorem refinement (types : List Mask) :
    (∀ s, Reach Closed (.ofTypes types) s → ∃ m, Lockstep types s m) ∧
    ∀ s m, Lockstep types s m → Agrees s m :=
  ⟨fun _ h => exists_lockstep h, fun _ _ h => h.mirrors.agrees⟩

/-- Four bytes that the host sees through a staging buffer. -/
def lateUploadPlan : TensorPlan :=
  { dtype := .int, kind := .device, data := some (.ofBytes [1, 2, 3, 4]) }

/-- An upload is recorded, the host writes, and only then is the upload submitted. -/
def lateUploadActions : List Action :=
  [.outside .newCommandBuffer, .record 1 true 5 (.upload .shaderRead),
    .overwriteBytes 1 (.ofBytes [5, 6, 7, 8]), .outside (.submit 5)]

def lateUpload : Bench :=
  lateUploadActions.foldl Bench.step
    ((Bench.ofTypes [MemoryFlags.deviceLocal, Placement.hostCoherent]).step (.build lateUploadPlan))

/-- What the machine makes of it, told that the tensor was built. -/
def lateUploadMachine : Machine :=
  lateUploadActions.foldl (Machine.step · false) (Machine.initial.step true (.build lateUploadPlan))

theorem refinement_lateUpload :
    Lockstep [MemoryFlags.deviceLocal, Placement.hostCoherent] lateUpload lateUploadMachine ∧
      lateUploadMachine.cells ⟨1, .device⟩ = [5, 6, 7, 8] ∧
      ∃ block, lateUpload.gateway.device.read 1 4 = .ok block ∧ block.toBytes = [5, 6, 7, 8] := by
  have hrun : Lockstep [MemoryFlags.deviceLocal, Placement.hostCoherent] lateUpload
      lateUploadMachine := by
    have hbuilt : (Bench.ofTypes [MemoryFlags.deviceLocal, Placement.hostCoherent]).acquires
        (.build lateUploadPlan) = true := by decide +kernel
    have hstart := Lockstep.step (.build lateUploadPlan)
      (@Lockstep.start [MemoryFlags.deviceLocal, Placement.hostCoherent]) ⟨rfl, rfl⟩
    rw [hbuilt] at hstart
    have hbuffer := Lockstep.step (.outside .newCommandBuffer) hstart (.inl rfl)
    have hrecorded := Lockstep.step (.record 1 true 5 (.upload .shaderRead)) hbuffer (by
      show Table.contains _ 5 = true
      decide +kernel)
    have hwritten := Lockstep.step (.overwriteBytes 1 (.ofBytes [5, 6, 7, 8])) hrecorded trivial
    exact Lockstep.step (.outside (.submit 5)) hwritten (.inr (.inl ⟨5, rfl⟩))
  have hcells : lateUploadMachine.cells ⟨1, .device⟩ = [5, 6, 7, 8] := by decide +kernel
  have ht : lateUpload.tensors.get? 1 = some ⟨.device, .int, 1,
      .live ⟨⟨.owned 1 2 Placement.device.needs.primary.usage,
        some (.owned 3 4 Placement.transfer)⟩, some ⟨4, 0⟩⟩⟩ := by decide +kernel
  obtain ⟨-, hread⟩ := ((refinement _).2 _ _ hrun).primary ht rfl
  obtain ⟨block, hb, he⟩ := hread 4 (by decide)
  rw [hcells] at he
  exact ⟨hrun, hcells, block, hb, he⟩

end Bench
end TensorMemory
