import TensorMemory.Proofs.Session.Commands
import TensorMemory.Proofs.Tensor.Overlap

/-!
Copies of a buffer onto itself in a session. Recordings and changes of settings leave the slots and
the names as they are (`answer_stands`), so whether a step copies a buffer onto itself is decided by
the tensors that the session begins with (`overlap`): it does exactly if it moves bytes between the
two buffers of a tensor for which these are one.
-/

namespace TensorMemory.Session

/-- The sessions have the same tensors in their slots, the same names, and as many devices. -/
structure Stands (s s' : Session) : Prop where
  slots : s'.slots = s.slots
  names : s'.names = s.names
  devices : s'.gateways.length = s.gateways.length

namespace Stands

variable {s s' s'' : Session}

theorem refl (s : Session) : Stands s s := ⟨rfl, rfl, rfl⟩

theorem trans (h : Stands s s') (h' : Stands s' s'') : Stands s s'' where
  slots := h'.slots.trans h.slots
  names := h'.names.trans h.names
  devices := h'.devices.trans h.devices

theorem symm (h : Stands s s') : Stands s' s := ⟨h.slots.symm, h.names.symm, h.devices.symm⟩

theorem resolve (h : Stands s s') (ref : HandleRef) : s'.resolve ref = s.resolve ref := by
  cases ref <;> simp only [Session.resolve, h.slots, h.names]

theorem recording? (h : Stands s s') (step : TensorStep) :
    s'.recording? step = s.recording? step := by
  cases step <;> simp only [Session.recording?, h.slots]

end Stands

/-! ## Steps that keep the tensors -/

theorem useGateway_stands {α : Type} (s : Session) (i : Nat) (absent : α)
    (f : Gateway → α × Gateway) : Stands s (s.useGateway i absent f).2 := by
  unfold useGateway
  split
  · exact .refl s
  · exact ⟨rfl, rfl, List.length_set⟩

theorem recordStep_stands (s : Session) (sl : Slot) (ref : HandleRef)
    (f : Gateway → Handle → Except TensorError Unit × Gateway) :
    Stands s (s.recordStep sl ref f).2 := by
  unfold recordStep
  split
  · exact .refl s
  · exact s.useGateway_stands ..

theorem answer_stands (s : Session) {step : Step} (h : step.isRecordingOrSetting = true) :
    Stands s (s.answer step).2 := by
  cases step with
  | construct => cases h
  | invalid => exact .refl s
  | environment step =>
    obtain ⟨environment, guards, he⟩ := s.runEnvironmentStep_same step
    simp only [answer, he]
    exact ⟨rfl, rfl, rfl⟩
  | configuration step =>
    obtain ⟨configuration, he⟩ := s.runConfigurationStep_same step
    simp only [answer, he]
    exact ⟨rfl, rfl, rfl⟩
  | tracing step =>
    obtain ⟨configuration, collector, he⟩ := s.runTracingStep_same step
    simp only [answer, he]
    exact ⟨rfl, rfl, rfl⟩
  | tensor slot step =>
    simp only [answer, runTensorStep]
    cases s.slots.get? slot with
    | none => exact .refl s
    | some sl =>
      cases step with
      | copyFrom source commandBuffer =>
        simp only [TensorStep.isTyped, Bool.false_and, Bool.false_eq_true, if_false, tensorStep]
        split
        · exact .refl s
        · exact s.recordStep_stands ..
      | upload | download | primaryBarrier | stagingBarrier => exact s.recordStep_stands ..
      | _ => cases h
  | device i names step =>
    cases step with
    | recordBarrier commandBuffer buffer size source target =>
      obtain ⟨⟨f, hfailure⟩, -⟩ | ⟨c, b, hrecorded, -⟩ :=
        s.recordBarrier_cases i names commandBuffer buffer size source target
      · rw [hfailure]
        exact .refl s
      · rw [hrecorded]
        exact s.useGateway_stands ..
    | _ => cases h

theorem step_stands (s : Session) {step : Step} (h : step.isRecordingOrSetting = true) :
    Stands s (s.step step).2 :=
  have hrefreshed : Stands s s.refreshed := ⟨rfl, rfl, rfl⟩
  hrefreshed.trans (s.refreshed.answer_stands h)

/-! ## Steps that copy a buffer onto itself -/

/-- The step moves bytes between the two buffers of a tensor for which these are one. It goes into a
command buffer of a device. -/
inductive SelfCopies (s : Session) : Step → Nat → Handle → Handle → Prop
  | intro {slot : Nat} {sl : Slot} {step : TensorStep} {ref : HandleRef} {r : Tensor.Recording}
      {commandBuffer buffer : Handle} (hslot : s.slots.get? slot = some sl)
      (hstep : s.recording? step = some (ref, r)) (hinner : r.isInner = true)
      (hbuffer : s.resolve ref = .ok commandBuffer) (hdevice : sl.device < s.gateways.length)
      (hfolds : sl.tensor.Folds buffer) :
      SelfCopies s (.tensor slot step) sl.device commandBuffer buffer

variable {s s' : Session} {step : Step} {i : Nat} {commandBuffer buffer : Handle}

theorem mem_issue {cs : List WholeCommand} {j : Nat} {c : Handle} {x : IssuedCommand} :
    x ∈ s.issue j c cs ↔
      j < s.gateways.length ∧ ∃ w ∈ cs, x = ⟨j, c, w.command, s.tracesCommands⟩ := by
  unfold issue
  split
  · next h => simp [h, eq_comm]
  · next h => simp [h]

/-- The calls of copies from a buffer to itself. -/
theorem call_eq_copy {w : WholeCommand} {j : Nat} {c : Handle} {traced : Bool} :
    IssuedCommand.call ⟨j, c, w.command, traced⟩ = (i, .copy commandBuffer buffer buffer) ↔
      j = i ∧ c = commandBuffer ∧ ∃ size, w = .copy buffer buffer size := by
  cases w with
  | copy source target size =>
    simp [IssuedCommand.call, WholeCommand.command, Command.wholeCopy, Command.call]
  | barrier buffer size source target =>
    simp [IssuedCommand.call, WholeCommand.command, Command.wholeBarrier, Command.call]

theorem issues_selfCopy : (i, .copy commandBuffer buffer buffer) ∈
      (s.issues step).map IssuedCommand.call ↔ s.SelfCopies step i commandBuffer buffer := by
  constructor
  · intro h
    obtain ⟨x, hx, hcall⟩ := List.mem_map.mp h
    unfold issues at hx
    split at hx
    · split at hx
      next sl hslot =>
        split at hx
        next ref r hstep =>
          unfold issueRecording at hx
          split at hx
          next c cs hbuffer hwording =>
            obtain ⟨hdevice, w, hw, rfl⟩ := mem_issue.mp hx
            obtain ⟨rfl, rfl, size, rfl⟩ := call_eq_copy.mp hcall
            obtain ⟨hinner, hfolds, -⟩ := (Tensor.copy_mem_wording hwording).mp hw
            exact ⟨hslot, hstep, hinner, hbuffer, hdevice, hfolds⟩
          next => cases hx
        next => cases hx
      next => cases hx
    · split at hx
      next =>
        obtain ⟨-, w, hw, rfl⟩ := mem_issue.mp hx
        obtain ⟨-, -, size, rfl⟩ := call_eq_copy.mp hcall
        simp at hw
      next => cases hx
    · cases hx
  · rintro ⟨hslot, hstep, hinner, hbuffer, hdevice, hfolds⟩
    obtain ⟨cs, hwording⟩ := hfolds.wording hinner
    have hcopy := (Tensor.copy_mem_wording hwording).mpr ⟨hinner, hfolds, rfl⟩
    simp only [issues, hslot, hstep, issueRecording, hbuffer, hwording]
    exact List.mem_map.mpr ⟨_, mem_issue.mpr ⟨hdevice, _, hcopy, rfl⟩,
      call_eq_copy.mpr ⟨rfl, rfl, _, rfl⟩⟩

theorem SelfCopies.transfer (h : Stands s s') (hs : s.SelfCopies step i commandBuffer buffer) :
    s'.SelfCopies step i commandBuffer buffer := by
  obtain ⟨hslot, hstep, hinner, hbuffer, hdevice, hfolds⟩ := hs
  exact ⟨h.slots ▸ hslot, (h.recording? _).trans hstep, hinner, (h.resolve _).trans hbuffer,
    h.devices ▸ hdevice, hfolds⟩

/-- Such a step is done as any other. -/
theorem SelfCopies.answer (h : s.SelfCopies step i commandBuffer buffer) :
    (s.answer step).1 = .done := by
  obtain ⟨hslot, hstep, hinner, hbuffer, hdevice, hfolds⟩ := h
  obtain ⟨cs, hwording⟩ := hfolds.wording hinner
  simp only [Session.answer, runTensorStep, hslot, isTyped_of_recording hstep, Bool.false_and,
    Bool.false_eq_true, if_false, tensorStep_recording _ _ hstep, recordStep, hbuffer,
    Tensor.record_eq, hwording, useGateway]
  split <;> rfl

/-- A copy between tensors that share their primary buffer is refused, and nothing is recorded. -/
theorem copyFrom_shared {slot source : Nat} {sl other : Slot} {ref : HandleRef}
    {p q : BackedBuffer} (hslot : s.slots.get? slot = some sl)
    (hsource : s.slots.get? source = some other) (hbuffer : s.resolve ref = .ok commandBuffer)
    (hdevice : sl.device < s.gateways.length) (hp : sl.tensor.primary = .ok p)
    (hq : other.tensor.primary = .ok q) (hpq : q.buffer.handle = p.buffer.handle) :
    (s.answer (.tensor slot (.copyFrom source ref))).1 =
        .failure (.tensor (q.overlapRefusal p)) ∧
      (s.answer (.tensor slot (.copyFrom source ref))).2.calls = s.calls ∧
      ∀ j, (s.answer (.tensor slot (.copyFrom source ref))).2.device? j = s.device? j := by
  have hrefused : (s.answer (.tensor slot (.copyFrom source ref))).1 =
      .failure (.tensor (q.overlapRefusal p)) := by
    have hg : s.gateways[sl.device]? = some s.gateways[sl.device] :=
      List.getElem?_eq_getElem hdevice
    simp only [Session.answer, runTensorStep, hslot, TensorStep.isTyped, Bool.false_and,
      Bool.false_eq_true, if_false, tensorStep, hsource, recordStep, hbuffer,
      Tensor.recordCopyOf_eq, Tensor.copyPlan_shared hp hq hpq, useGateway, hg]
    rfl
  have hrecording : (Step.tensor slot (.copyFrom source ref)).isRecordingOrSetting = true := rfl
  have hfollows := s.answer_follows hrecording
  rw [issues_of_failure hrefused] at hfollows
  refine ⟨hrefused, by simpa using hfollows.calls, fun j => ?_⟩
  rw [hfollows.devices]
  simp

theorem takeAll_selfCopies (s : Session) {steps : List Step}
    (hsteps : ∀ step ∈ steps, step.isRecordingOrSetting = true) :
    (i, .copy commandBuffer buffer buffer) ∈ (s.takeAll steps).1.flatMap (·.calls) ↔
      ∃ step ∈ steps, s.SelfCopies step i commandBuffer buffer := by
  rw [(s.takeAll_devices hsteps).1]
  induction steps generalizing s with
  | nil => simp [issued]
  | cons first rest ih =>
    have hstands := s.step_stands (hsteps first List.mem_cons_self)
    rw [issued, List.map_append, List.mem_append, issues_selfCopy,
      ih _ fun step hstep => hsteps step (List.mem_cons_of_mem _ hstep)]
    simp only [List.mem_cons, exists_eq_or_imp]
    refine or_congr Iff.rfl ⟨?_, ?_⟩
    · rintro ⟨step, hstep, h⟩
      exact ⟨step, hstep, h.transfer hstands.symm⟩
    · rintro ⟨step, hstep, h⟩
      exact ⟨step, hstep, h.transfer hstands⟩

/-- In a session of recordings, mixed with changes of settings, a buffer is copied onto itself
exactly where bytes are moved between the two buffers of a tensor for which these are one. Such a
step is done. Tensors that share their primary buffer are not copied to each other: that is refused
and nothing is recorded. The two buffers of a tensor are one only if it was lent both, or was lent
one before there was such a buffer, and never once it was rebuilt. -/
theorem overlap (s : Session) {steps : List Step}
    (hsteps : ∀ step ∈ steps, step.isRecordingOrSetting = true) :
    (∀ i commandBuffer buffer,
      (i, .copy commandBuffer buffer buffer) ∈ (s.takeAll steps).1.flatMap (·.calls) ↔
        ∃ step ∈ steps, s.SelfCopies step i commandBuffer buffer) ∧
    (∀ step i commandBuffer buffer, s.SelfCopies step i commandBuffer buffer →
      (s.answer step).1 = .done) ∧
    (∀ slot source sl other ref commandBuffer p q, s.slots.get? slot = some sl →
      s.slots.get? source = some other → s.resolve ref = .ok commandBuffer →
      sl.device < s.gateways.length → sl.tensor.primary = .ok p → other.tensor.primary = .ok q →
      q.buffer.handle = p.buffer.handle →
      (s.answer (.tensor slot (.copyFrom source ref))).1 =
          .failure (.tensor (q.overlapRefusal p)) ∧
        (s.answer (.tensor slot (.copyFrom source ref))).2.calls = s.calls ∧
        ∀ j, (s.answer (.tensor slot (.copyFrom source ref))).2.device? j = s.device? j) ∧
    (∀ (plan : TensorPlan) g g' t buffer, g.device.Numbered → plan.build g = (.ok t, g') →
      t.Folds buffer →
      plan.primary.map (·.buffer) = some buffer ∧ plan.staging.map (·.buffer) = some buffer ∨
        g.device.issued < buffer ∧ (plan.primary.map (·.buffer) = some buffer ∨
          plan.staging.map (·.buffer) = some buffer)) ∧
    ∀ (t t' : Tensor) g g' data size elementSize buffer, g.device.Numbered →
      t.rebuild g data size elementSize = (.ok (), t', g') → ¬t'.Folds buffer :=
  ⟨fun _ _ _ => s.takeAll_selfCopies hsteps, fun _ _ _ _ h => h.answer,
    fun _ _ _ _ _ _ _ _ hslot hsource hbuffer hdevice hp hq hpq =>
      copyFrom_shared hslot hsource hbuffer hdevice hp hq hpq,
    fun _ _ _ _ _ hg h hf => Tensor.folds_build hg h hf,
    fun _ _ _ _ _ _ _ buffer hg h => Tensor.not_folds_rebuild hg h buffer⟩

/-- A session whose tensor in slot 1 was lent buffer 1 both as its primary and as its staging
buffer, and a command buffer. -/
def foldedSession : Session :=
  ((start [.ofDevice (.ofTypes [Placement.hostCoherent])] true).takeAll
    [.device 0 ["buffer", "memory"] (.createBound 4 Placement.transfer Placement.hostCoherent),
      .construct 0 1 (.ofPlan { dtype := .int, kind := .device, elements := some 1 }
        (some (.named "buffer", .named "memory")) (some (.named "buffer", .named "memory"))),
      .device 0 ["commands"] .newCommandBuffer]).2

/-- The tensor in slot 1. -/
def foldedTensor : Tensor :=
  ⟨.device, .int, 1, .live ⟨⟨.borrowed ⟨1, 2⟩, some (.borrowed ⟨1, 2⟩)⟩, some ⟨2, 0⟩⟩⟩

theorem overlap_foldedTensor : (0, .copy 3 1 1) ∈
    (foldedSession.takeAll [.tensor 1 (.download (.named "commands") none)]).1.flatMap
      (·.calls) := by
  have hslot : foldedSession.slots.get? 1 = some ⟨0, foldedTensor, some 2, false⟩ := rfl
  refine ((overlap foldedSession ?_).1 0 3 1).mpr ⟨_, List.mem_singleton_self _, ?_⟩
  · decide
  · exact ⟨hslot, rfl, rfl, rfl, by decide +kernel, rfl, _, _, rfl, rfl, rfl, rfl⟩

/-- Copying buffer 1 onto itself is not refused, and goes to the device. -/
theorem overlap_foldedUpload :
    let upload := Step.tensor 1 (.upload (.named "commands") none)
    (foldedSession.answer upload).1 = .done ∧
      ((foldedSession.answer upload).2.device? 0).map (·.recorded 3) =
        some [.copy 1 1 [⟨0, 0, 4⟩], .wholeBarrier 1 4 .transferWrite .shaderRead] := by
  exact ⟨rfl, rfl⟩

end TensorMemory.Session
