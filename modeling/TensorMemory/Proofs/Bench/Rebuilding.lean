import TensorMemory.Proofs.Bench.Conservation
import TensorMemory.Proofs.Tensor.Rebuilding

/-!
Rebuilds in the course of a run. However tensors were built, lent to, rebuilt and destroyed, and
whatever was done past them and went wrong on the way, each of them holds its assets once and apart
from what it has on loan (`Regular`). So a rebuild of any of them, with any faults still to come, is
refused and nothing happens, or gives up exactly what the tensor owned and then renews it or leaves
nothing behind (`rebuilding`).
-/

namespace TensorMemory.Bench

/-- What is lent has been given out by the device before. -/
def Lends (s : Bench) : Action → Prop
  | .build plan => ∀ a ∈ plan.loans, a.handle ≤ s.gateway.device.issued
  | _ => True

structure Regular (s : Bench) : Prop extends Orderly s where
  regular : ∀ {n t}, s.tensors.get? n = some t → t.Regular s.gateway.device.issued

namespace Regular

variable {s : Bench}

theorem ofTypes (types : List Mask) (faults : Faults) : Regular (Bench.ofTypes types faults) where
  toOrderly := .ofTypes types faults
  regular h := by cases h

theorem step (hs : Regular s) {a : Action} (hl : Lends s a) : Regular (s.step a) where
  toOrderly := hs.toOrderly.step a
  regular {n t} ht := by
    have hg : s.entry.device.Numbered := hs.numbered
    rcases tensor_cases hs.toOrderly ht with
      hold | hgone | ⟨plan, rfl, -, hb⟩ | ⟨u, data, size, elementSize, rfl, hu, rfl⟩
    · exact (hs.regular hold).mono (issued_step hs.toOrderly a)
    · exact .of_empty (Tensor.resources?_of_detached hgone) _
    · exact TensorPlan.build_regular hg hl (Prod.ext hb rfl)
    · have hgateway : (s.step (.rebuild n data size elementSize)).gateway =
          (u.rebuild s.entry data size elementSize).2.2 :=
        apply_gateway hu fun t g => (t.rebuild g data size elementSize).2
      have hr : u.Regular s.entry.device.issued := hs.regular hu
      rw [hgateway]
      exact hr.rebuild hg data size elementSize

end Regular

/-- Of a tensor that a run reaches, a rebuild that finds it destroyed or its layout wrong does
nothing. Any other, whatever calls fail in its course, releases what the tensor owned and leaves
what was lent to it; then it renews the tensor, or leaves it without resources, with no new asset
and no announcement, and no worse off than if it were to be built. -/
theorem rebuilding {types : List Mask} {faults : Faults} {s : Bench}
    (h : Reach Lends (.ofTypes types faults) s) {n : Nat} {t : Tensor}
    (ht : s.tensors.get? n = some t) {g : Gateway} (hg : g.device = s.gateway.device)
    (data : Block) (size elementSize : Nat) :
    (t.isAttached = false ∨ ¬(t.afresh data size elementSize).Fits size →
      ∃ e, t.rebuild g data size elementSize = (.error e, t, g)) ∧
    (t.isAttached = true → (t.afresh data size elementSize).Fits size →
      ∃ r t' g' cs, t.rebuild g data size elementSize = (r, t', g') ∧ Relinquished t g g' cs ∧
        (r = .ok () ∧ Tensor.Renewed t t' g g' data size ∨
          (∃ e, r = .error e) ∧ Tensor.Vacated t t' g g' size)) := by
  have hs : Regular s :=
    h.invariant (P := Regular) (.ofTypes types faults) fun s a hs hl => hs.step hl
  have hregular := hs.regular ht
  have hnumbered := hs.numbered
  rw [← hg] at hregular hnumbered
  exact ⟨Tensor.rebuild_refused g, Tensor.rebuild_attached hregular hnumbered⟩

/-- A tensor with a staging buffer on loan, in which something was written before. -/
def inscribedRun : Bench :=
  (((ofTypes [MemoryFlags.deviceLocal, Placement.hostCoherent]).step
    (.outside (.createBound 16 Placement.transfer Placement.hostCoherent))).step
    (.outside (.store ⟨2, 20⟩ (.ofBytes [9])))).step (.build stagedPlan)

/-- The tensor of that run. -/
def borrower : Tensor :=
  ⟨.device, .float, 4, .live ⟨⟨.owned 3 4 Placement.device.needs.primary.usage,
    some (.borrowed ⟨1, 2⟩)⟩, some ⟨2, 0⟩⟩⟩

/-- Of the two buffers that the tensor needs the second one is refused. -/
def stagingRefused : Gateway :=
  inscribedRun.gateway.setFaults
    { createBuffer := fun n => if n = 1 then some .outOfDeviceMemory else none }

/-- One element in place of four, once with new buffers and once without. -/
theorem rebuilding_inscribedRun : inscribedRun.tensors.get? 1 = some borrower ∧
    (∃ t' g' cs, borrower.rebuild inscribedRun.gateway (.ofBytes [1, 2, 3, 4]) 1 4 =
        (.ok (), t', g') ∧
      (Call.released cs).count (.memory 4) = 1 ∧ g'.device.isMapped 2 = false ∧
      g'.device.bytes? 2 = inscribedRun.gateway.device.bytes? 2 ∧ t'.size = 1) ∧
    ∃ e t' g' cs, borrower.rebuild stagingRefused (.ofBytes [1, 2, 3, 4]) 1 4 =
        (.error e, t', g') ∧
      (Call.released cs).count (.memory 4) = 1 ∧ g'.device.isMapped 2 = false ∧
      t'.isInitialized = false := by
  have h : Reach Lends (.ofTypes [MemoryFlags.deviceLocal, Placement.hostCoherent])
      inscribedRun := by
    refine .step _ (.step _ (.step _ .refl trivial) trivial) ?_
    show ∀ a ∈ stagedPlan.loans, a.handle ≤ _
    decide +kernel
  have ht : inscribedRun.tensors.get? 1 = some borrower := by decide +kernel
  have hf : (borrower.afresh (.ofBytes [1, 2, 3, 4]) 1 4).Fits 1 := by
    refine ⟨fun w hw => ?_, .inl rfl, by decide, by decide, fun block hb => ?_⟩
    · cases hw
      rfl
    · cases hb
      rfl
  refine ⟨ht, ?_, ?_⟩
  · obtain ⟨r, t', g', cs, he, hgone, ⟨rfl, hnew⟩ | ⟨⟨e, rfl⟩, -⟩⟩ :=
      (rebuilding h ht (g := inscribedRun.gateway) rfl _ 1 4).2 rfl hf
    · exact ⟨t', g', cs, he, (hgone.released (.memory 4) (by decide)).1,
        hgone.unmapped ⟨2, 0⟩ rfl, hgone.bytes 2 (by decide), hnew.resized⟩
    · have hok := congrArg Prod.fst he
      cases hok
  · obtain ⟨r, t', g', cs, he, hgone, ⟨rfl, -⟩ | ⟨⟨e, rfl⟩, hempty⟩⟩ :=
      (rebuilding h ht (g := stagingRefused) rfl _ 1 4).2 rfl hf
    · have herror := congrArg Prod.fst he
      cases herror
    · exact ⟨e, t', g', cs, he, (hgone.released (.memory 4) (by decide)).1,
        hgone.unmapped ⟨2, 0⟩ rfl, hempty.uninitialized⟩

end TensorMemory.Bench
