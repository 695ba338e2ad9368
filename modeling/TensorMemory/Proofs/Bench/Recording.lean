import TensorMemory.Proofs.Bench.Turns

/-!
What a recording adds to a command buffer. A recording that is refused adds nothing; one that is not
adds its commands at the end, and leaves all else of the device as it is (`recordAll_of_known`).
-/

namespace TensorMemory.Bench

/-- The commands that a recording adds. -/
def commands (s : Bench) (t : Tensor) : Recording → List Command
  | .copyFrom source =>
    match s.tensors.get? source with
    | none => []
    | some u =>
      match t.copyPlan u with
      | .error _ => []
      | .ok (origin, target, size) => [.wholeCopy origin target size]
  | .upload scope =>
    match t.stagedBuffers "record_copy_from_staging_to_device" with
    | .error _ => []
    | .ok (staging, primary) =>
      [.wholeCopy staging primary t.byteSize,
        .wholeBarrier primary t.byteSize .transferWrite scope]
  | .download scope =>
    match t.stagedBuffers "record_copy_from_device_to_staging" with
    | .error _ => []
    | .ok (staging, primary) =>
      [.wholeBarrier primary t.byteSize scope .transferRead,
        .wholeCopy primary staging t.byteSize]
  | .primaryBarrier source target =>
    match t.primaryTarget with
    | .error _ => []
    | .ok primary => [.wholeBarrier primary.buffer.handle t.byteSize source target]
  | .stagingBarrier source target =>
    match t.staging "record_staging_buffer_memory_barrier" with
    | .error _ => []
    | .ok staging => [.wholeBarrier staging.buffer.handle t.byteSize source target]

theorem commands_eq (s : Bench) (t : Tensor) (r : Recording) : s.commands t r =
    match s.recordingFor r with
    | none => []
    | some r =>
      match t.wording r with
      | .error _ => []
      | .ok cs => cs.map WholeCommand.command := by
  cases r with
  | copyFrom source =>
    simp only [commands, recordingFor]
    cases s.tensors.get? source with
    | none => rfl
    | some u =>
      simp only [Option.map_some, Tensor.wording]
      cases t.copyPlan u <;> rfl
  | upload scope =>
    simp only [commands, recordingFor, Tensor.wording]
    cases t.stagedBuffers "record_copy_from_staging_to_device" <;> rfl
  | download scope =>
    simp only [commands, recordingFor, Tensor.wording]
    cases t.stagedBuffers "record_copy_from_device_to_staging" <;> rfl
  | primaryBarrier source target =>
    simp only [commands, recordingFor, Tensor.wording]
    cases t.primaryTarget <;> rfl
  | stagingBarrier source target =>
    simp only [commands, recordingFor, Tensor.wording, Tensor.stagingTarget_eq]
    cases t.staging "record_staging_buffer_memory_barrier" <;> rfl

theorem performRecording_device (s : Bench) (traced : Bool) (commandBuffer : Handle) (t : Tensor)
    (g : Gateway) (r : Recording) : (s.performRecording traced commandBuffer t g r).device =
      g.device.recordAll commandBuffer (s.commands t r) := by
  rw [performRecording_eq, commands_eq]
  cases s.recordingFor r with
  | none => rfl
  | some r =>
    dsimp only
    rw [Tensor.record_eq]
    cases t.wording r with
    | error e => rfl
    | ok cs => exact g.device_enterAll traced commandBuffer cs

theorem device_record {s : Bench} {n : Nat} {t : Tensor} (ht : s.tensors.get? n = some t)
    (traced : Bool) (commandBuffer : Handle) (r : Recording) :
    (s.step (.record n traced commandBuffer r)).gateway.device =
      s.gateway.device.recordAll commandBuffer (s.commands t r) := by
  show (s.apply n fun t g =>
    (t, s.performRecording traced commandBuffer t g r)).gateway.device = _
  rw [apply_gateway ht]
  exact performRecording_device ..

/-- A recording adds its commands to those that wait. -/
theorem waiting_record {s : Bench} {n : Nat} {t : Tensor} (ht : s.tensors.get? n = some t)
    (traced : Bool) {commandBuffer : Handle} {commands : List Command}
    (h : s.gateway.device.commandBuffers.get? commandBuffer = some commands) (r : Recording) :
    (s.step (.record n traced commandBuffer r)).gateway.device.commandBuffers.get? commandBuffer =
      some (commands ++ s.commands t r) := by
  rw [device_record ht, Device.recordAll_of_known (Table.contains_iff.mpr ⟨commands, h⟩)]
  dsimp only
  rw [Table.get?_modify, if_pos rfl, h]
  rfl

theorem performRecording_quiet (s : Bench) (traced : Bool) {commandBuffer : Handle} (t : Tensor)
    {g : Gateway} (r : Recording) (h : g.device.commandBuffers.contains commandBuffer = true) :
    (s.performRecording traced commandBuffer t g r).device.violations = g.device.violations := by
  rw [performRecording_device, Device.recordAll_of_known h]

end TensorMemory.Bench
