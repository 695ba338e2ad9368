import TensorMemory.Proofs.Device.Operation

/-!
What recording adds. Commands that are recorded one after another come behind those that wait
already, in a command buffer that the device has, and all else of the device stays as it is
(`recordAll_of_known`).
-/

namespace TensorMemory.Device

/-- Records commands one after another. -/
def recordAll (d : Device) (commandBuffer : Handle) (commands : List Command) : Device :=
  commands.foldl (fun d c => d.record commandBuffer c) d

theorem recordAll_eq_run (d : Device) (commandBuffer : Handle) (commands : List Command) :
    d.recordAll commandBuffer commands = d.run (commands.map (.record commandBuffer)) := by
  rw [run, List.foldl_map]
  rfl

theorem record_of_known {d : Device} {commandBuffer : Handle}
    (h : d.commandBuffers.contains commandBuffer = true) (c : Command) :
    d.record commandBuffer c =
      { d with commandBuffers := d.commandBuffers.modify commandBuffer (· ++ [c]) } := if_pos h

theorem recordAll_of_known {d : Device} {commandBuffer : Handle}
    (h : d.commandBuffers.contains commandBuffer = true) (commands : List Command) :
    d.recordAll commandBuffer commands =
      { d with commandBuffers := d.commandBuffers.modify commandBuffer (· ++ commands) } := by
  induction commands generalizing d with
  | nil =>
    show d = { d with commandBuffers := d.commandBuffers.modify commandBuffer (· ++ []) }
    rw [Table.modify_eq_self fun cs _ => List.append_nil cs]
  | cons c commands ih =>
    have hc : (d.record commandBuffer c).commandBuffers.contains commandBuffer = true := by
      rw [record_of_known h, Table.contains_modify]
      exact h
    show (d.record commandBuffer c).recordAll commandBuffer commands = _
    rw [ih hc, record_of_known h]
    dsimp only
    rw [Table.modify_modify]
    simp only [Function.comp_def, List.append_assoc, List.singleton_append]

theorem recorded_recordAll {d : Device} {commandBuffer : Handle}
    (h : d.commandBuffers.contains commandBuffer = true) (commands : List Command) (k : Handle) :
    (d.recordAll commandBuffer commands).recorded k =
      d.recorded k ++ if k = commandBuffer then commands else [] := by
  rw [recordAll_of_known h, recorded, recorded]
  dsimp only
  rw [Table.get?_modify]
  split
  · next hk =>
    obtain ⟨cs, hcs⟩ := Table.contains_iff.mp h
    rw [hk, hcs]
    rfl
  · exact (List.append_nil _).symm

end TensorMemory.Device
