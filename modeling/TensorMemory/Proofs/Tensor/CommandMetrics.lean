import TensorMemory.Proofs.Tensor.Recording
import TensorMemory.Proofs.Tracing.Channel

/-!
Traced commands are mirrored one for one: each command that goes into a command buffer is one call,
and carries one metric event with its kind, its command buffer and its size when commands are
traced. What the device objects to is only logged.
-/

namespace TensorMemory

/-- The metric event that stands for a command. -/
def Command.image (commandBuffer : Handle) : Command → MetricEvent
  | .copy _ _ regions =>
    .recorded "copy" (.ofNat commandBuffer) (.ofNat (regions.map (·.size)).sum)
  | .barrier _ _ barriers =>
    .recorded "barrier" (.ofNat commandBuffer) (.ofNat (barriers.map (·.size)).sum)

/-- The call that puts a command into a command buffer. -/
def Command.call (commandBuffer : Handle) : Command → Call
  | .copy source target _ => .copy commandBuffer source target
  | .barrier sourceStage targetStage _ => .barrier commandBuffer sourceStage targetStage

namespace Gateway

/-- The metric events that the notices of a gateway carry. -/
def metrics (g : Gateway) : List MetricEvent :=
  (g.notices.map Notice.event).filterMap Collector.carried

theorem metrics_tell (g : Gateway) (n : Notice) :
    (g.tell n).metrics = g.metrics ++ (Collector.carried n.event).toList := by
  cases h : Collector.carried n.event <;> simp [metrics, tell, h]

/-- Warnings carry no metric event. -/
theorem carried_warnings (vs : List Violation) :
    ((vs.map warning).map Notice.event).filterMap Collector.carried = [] := by
  simp only [List.map_map, List.filterMap_eq_nil_iff, List.mem_map]
  rintro _ ⟨v, -, rfl⟩
  exact Collector.carried_log (by decide)

theorem metrics_advance (g : Gateway) (d : Device) : (g.advance d).metrics = g.metrics := by
  simp only [metrics, advance, List.map_append, List.filterMap_append, carried_warnings,
    List.append_nil]

theorem metrics_announceCommand (g : Gateway) (traced : Bool) (command : String)
    (commandBuffer : Handle) (bytes : Nat) :
    (g.announceCommand traced command commandBuffer bytes).metrics = g.metrics ++
      if traced then [.recorded command (.ofNat commandBuffer) (.ofNat bytes)] else [] := by
  cases traced with
  | false => simp [announceCommand]
  | true =>
    simp only [announceCommand, if_true, metrics_tell, Notice.event, Collector.carried_ofMetric]
    rw [Collector.carried_log (by decide)]
    simp

theorem calls_announceCommand (g : Gateway) (traced : Bool) (command : String)
    (commandBuffer : Handle) (bytes : Nat) :
    (g.announceCommand traced command commandBuffer bytes).calls = g.calls := by
  unfold announceCommand
  split <;> rfl

/-- A command that is put down is mirrored when it is traced. -/
theorem metrics_enter (g : Gateway) (traced : Bool) (commandBuffer : Handle) (c : WholeCommand) :
    (g.enter traced commandBuffer c).metrics =
      g.metrics ++ if traced then [c.command.image commandBuffer] else [] := by
  cases c with
  | copy source target size =>
    refine (metrics_announceCommand ..).trans ?_
    rw [show (g.addCopy commandBuffer source target [⟨0, 0, size⟩]).metrics = g.metrics from
      metrics_advance ..]
    simp [WholeCommand.command, Command.wholeCopy, Command.image]
  | barrier buffer size source target =>
    refine (metrics_announceCommand ..).trans ?_
    rw [show (g.addBarrier commandBuffer source.stage target.stage
      [⟨buffer, source.access, target.access, ignoredFamily, ignoredFamily, 0, size⟩]).metrics =
      g.metrics from metrics_advance ..]
    simp [WholeCommand.command, Command.wholeBarrier, Command.image]

theorem calls_enter (g : Gateway) (traced : Bool) (commandBuffer : Handle) (c : WholeCommand) :
    (g.enter traced commandBuffer c).calls = g.calls ++ [c.command.call commandBuffer] := by
  cases c with
  | copy source target size => exact calls_announceCommand ..
  | barrier buffer size source target => exact calls_announceCommand ..

theorem metrics_enterAll (g : Gateway) (traced : Bool) (commandBuffer : Handle)
    (cs : List WholeCommand) : (g.enterAll traced commandBuffer cs).metrics =
      g.metrics ++ if traced then cs.map (·.command.image commandBuffer) else [] := by
  induction cs generalizing g with
  | nil => cases traced <;> simp [enterAll]
  | cons c cs ih =>
    refine (ih (g.enter traced commandBuffer c)).trans ?_
    rw [metrics_enter]
    cases traced <;> simp

theorem calls_enterAll (g : Gateway) (traced : Bool) (commandBuffer : Handle)
    (cs : List WholeCommand) : (g.enterAll traced commandBuffer cs).calls =
      g.calls ++ cs.map (·.command.call commandBuffer) := by
  induction cs generalizing g with
  | nil => simp [enterAll]
  | cons c cs ih =>
    refine (ih (g.enter traced commandBuffer c)).trans ?_
    rw [calls_enter]
    simp

end Gateway
end TensorMemory
