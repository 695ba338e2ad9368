import TensorMemory.Proofs.Bench.Mirror.Lifecycle
import TensorMemory.Proofs.Bench.Mirror.Recordings
import TensorMemory.Proofs.Bench.Mirror.Writes

/-!
The mirror through a run. Submitting makes the transfers that the waiting commands stand for, and
with that every action is taken by bench and machine alike (`Mirrors.step`).
-/

namespace TensorMemory.Bench.Mirrors

variable {s : Bench} {m : Machine} {n : Nat} {t : Tensor} {a : Action}

/-! ## Past the tensors -/

/-- Submitting succeeds, and makes the transfers that the waiting commands stand for. -/
theorem submit_spec (h : Mirrors s m) {commandBuffer : Handle}
    (hk : s.gateway.device.commandBuffers.contains commandBuffer = true) :
    ∃ d, s.gateway.device.submit commandBuffer = (.ok (), d) ∧
      Laid s.tensors d ((m.waiting commandBuffer).foldl Cells.transfer m.cells) ∧
      d.commandBuffers = s.gateway.device.commandBuffers.modify commandBuffer fun _ => [] := by
  obtain ⟨cs, hcs⟩ := Table.contains_iff.mp hk
  have hwaiting := h.waiting commandBuffer
  rw [Device.recorded_of_get? hcs] at hwaiting
  have hlaid : Laid s.tensors { s.gateway.device with
      commandBuffers := s.gateway.device.commandBuffers.modify commandBuffer fun _ => [] }
      m.cells := h.laid.congr rfl rfl
  obtain ⟨d, hd, hafter⟩ := hwaiting.execute hlaid [] 0
  have hsubmit : s.gateway.device.submit commandBuffer = (.ok (), d) := by
    rw [Device.submit, hcs]
    exact hd
  refine ⟨d, hsubmit, hafter, ?_⟩
  have hrefilled := Device.submit_refilled s.gateway.device commandBuffer
  rw [hsubmit] at hrefilled
  exact hrefilled.commandBuffers

theorem submit (h : Mirrors s m) (commandBuffer : Handle) :
    Mirrors (s.step (.outside (.submit commandBuffer))) (m.submit commandBuffer) := by
  have hc : Closed s (.outside (.submit commandBuffer)) := .inr (.inl ⟨_, rfl⟩)
  have hdevice : (s.step (.outside (.submit commandBuffer))).gateway.device =
      (s.gateway.device.submit commandBuffer).2 := rfl
  cases hk : s.gateway.device.commandBuffers.get? commandBuffer with
  | none =>
    have hrecorded : s.gateway.device.recorded commandBuffer = [] := by
      rw [Device.recorded, hk]
      rfl
    have hwaiting := h.waiting commandBuffer
    rw [hrecorded] at hwaiting
    have hempty : m.waiting commandBuffer = [] := by
      cases hw : m.waiting commandBuffer with
      | nil => rfl
      | cons x xs =>
        rw [hw] at hwaiting
        cases hwaiting
    rw [Device.submit, hk] at hdevice
    refine h.stay hc rfl rfl ⟨rfl, rfl⟩ ?_ fun k => ?_
    · rw [hdevice, Machine.submit, hempty]
      exact h.laid
    · rw [hdevice, Machine.submit]
      dsimp only
      split
      · next he =>
        rw [he, hrecorded]
        exact .nil
      · exact h.waiting k
  | some cs =>
    obtain ⟨d, hd, hlaid, hcommands⟩ := h.submit_spec (Table.contains_iff.mpr ⟨cs, hk⟩)
    rw [hd] at hdevice
    refine h.stay hc rfl rfl ⟨rfl, rfl⟩ ?_ fun k => ?_
    · rw [hdevice]
      exact hlaid
    · rw [hdevice, Machine.submit, Device.recorded]
      dsimp only
      rw [hcommands, Table.get?_modify]
      split
      · next he =>
        rw [he, hk]
        exact .nil
      · exact h.waiting k

theorem newCommandBuffer (h : Mirrors s m) : Mirrors (s.step (.outside .newCommandBuffer)) m := by
  have hc : Closed s (.outside .newCommandBuffer) := .inl rfl
  refine h.stay hc rfl rfl ⟨rfl, rfl⟩ (h.laid.congr rfl rfl) fun k => ?_
  have hrecorded : (s.step (.outside .newCommandBuffer)).gateway.device.recorded k =
      s.gateway.device.recorded k := by
    show ((s.gateway.device.commandBuffers.insert (s.gateway.device.issued + 1) []).get? k).getD []
      = _
    rw [Table.get?_insert, Device.recorded]
    split
    · next hk =>
      cases hg : s.gateway.device.commandBuffers.get? k with
      | none => rfl
      | some cs =>
        have hle := (h.numbered.commandBuffers hg).2
        rw [hk] at hle
        exact absurd hle (Nat.not_succ_le_self _)
    · rfl
  rw [hrecorded]
  exact h.waiting k

/-! ## Every action -/

/-- The machine takes every action as the bench does. -/
theorem step (h : Mirrors s m) (hc : Closed s a) :
    Mirrors (s.step a) (m.step (s.acquires a) a) := by
  cases a with
  | build plan => exact h.build hc
  | rebuild n data size elementSize => exact h.rebuild data size elementSize hc
  | destroy n => exact h.destroy hc _
  | drop n => exact h.drop hc _
  | overwrite n dtype xs => exact h.overwrite dtype xs _
  | overwriteBytes n data => exact h.overwriteBytes data _
  | record n traced commandBuffer recording => exact h.record hc _
  | poke n chunk => exact h.poke chunk _
  | outside op =>
    obtain rfl | ⟨commandBuffer, rfl⟩ | ⟨count, rfl⟩ := id hc
    · exact h.newCommandBuffer
    · exact h.submit commandBuffer
    · exact h.stay hc rfl rfl ⟨rfl, rfl⟩ (h.laid.congr rfl rfl) h.waiting

end TensorMemory.Bench.Mirrors
