import TensorMemory.Proofs.Bench.Evolution
import TensorMemory.Proofs.Bench.Recording

/-!
Command buffers as transcripts. A command buffer holds what the recordings into it stand for, one
after another in the order of the calls, from the moment it was allocated or last submitted; a
recording that is refused has done nothing at all (`transcription`). Nothing is asked of the tensors,
of what is lent to them, or of what else happens in between.
-/

namespace TensorMemory.Bench

/-- What an action adds to a command buffer: a recording into it that is answered adds what it
stands for. -/
def addition (commandBuffer : Handle) (s : Bench) : Action → List Command
  | .record n traced k recording =>
    match s.tensors.get? n, s.recordingFor recording with
    | some t, some r =>
      if k = commandBuffer ∧ (t.record s.entry traced k r).1 = .ok () then t.expansion r else []
    | _, _ => []
  | _ => []

/-- What a run adds to a command buffer. -/
def transcript (commandBuffer : Handle) (s : Bench) : List Action → List Command
  | [] => []
  | a :: actions => s.addition commandBuffer a ++ (s.step a).transcript commandBuffer actions

/-- The command buffer is left to the tensors. -/
def Confined (commandBuffer : Handle) : Action → Prop
  | .outside op => op.commandBuffer? ≠ some commandBuffer
  | _ => True

theorem addition_record {s : Bench} {n : Nat} {t : Tensor} (ht : s.tensors.get? n = some t)
    (traced : Bool) (commandBuffer : Handle) (r : Recording) :
    s.addition commandBuffer (.record n traced commandBuffer r) = s.commands t r := by
  rw [commands_eq]
  simp only [addition, ht]
  cases s.recordingFor r with
  | none => rfl
  | some r =>
    simp only [Tensor.record_eq]
    cases hw : t.wording r with
    | error e => simp
    | ok cs => simp [Tensor.wording_ok hw]

/-- An action adds to a command buffer what it stands for there. -/
theorem waiting_addition {s : Bench} (hs : Orderly s) {a : Action} {commandBuffer : Handle}
    (ha : Confined commandBuffer a) {commands : List Command}
    (h : s.gateway.device.commandBuffers.get? commandBuffer = some commands) :
    (s.step a).gateway.device.commandBuffers.get? commandBuffer =
      some (commands ++ s.addition commandBuffer a) := by
  have leaves (hl : Leaving commandBuffer s a) (hn : s.addition commandBuffer a = []) :
      (s.step a).gateway.device.commandBuffers.get? commandBuffer =
        some (commands ++ s.addition commandBuffer a) := by
    rw [hn, List.append_nil]
    exact waiting_step hs hl h
  cases a with
  | record n traced k r =>
    cases ht : s.tensors.get? n with
    | none =>
      refine leaves (fun _ t ht' => ?_) (by simp [addition, ht])
      rw [ht] at ht'
      cases ht'
    | some t =>
      by_cases hk : k = commandBuffer
      · subst hk
        rw [addition_record ht]
        exact waiting_record ht traced h r
      · refine leaves (fun he => absurd he hk) ?_
        simp only [addition, ht]
        cases s.recordingFor r with
        | none => rfl
        | some r => exact if_neg fun hc => hk hc.1
  | outside op => exact leaves ha rfl
  | build | rebuild | destroy | drop | overwrite | overwriteBytes | poke =>
    exact leaves trivial rfl

theorem waiting_transcript {s : Bench} (hs : Orderly s) {actions : List Action}
    {commandBuffer : Handle} (ha : ∀ a ∈ actions, Confined commandBuffer a)
    {commands : List Command}
    (h : s.gateway.device.commandBuffers.get? commandBuffer = some commands) :
    (s.run actions).gateway.device.commandBuffers.get? commandBuffer =
      some (commands ++ s.transcript commandBuffer actions) := by
  induction actions generalizing s commands with
  | nil =>
    rw [transcript, List.append_nil]
    exact h
  | cons a actions ih =>
    have hfirst := waiting_addition hs (ha a (List.mem_cons_self ..)) h
    have hrest := ih (hs.step a) (fun b hb => ha b (List.mem_cons_of_mem _ hb)) hfirst
    rw [List.append_assoc] at hrest
    exact hrest

/-- A step after which a command buffer is there and empty. -/
inductive Clears (commandBuffer : Handle) (s : Bench) : Action → Prop
  | allocation (next : commandBuffer = s.gateway.device.issued + 1) :
    Clears commandBuffer s (.outside .newCommandBuffer)
  | submission (known : s.gateway.device.commandBuffers.contains commandBuffer = true) :
    Clears commandBuffer s (.outside (.submit commandBuffer))

theorem waiting_cleared {s : Bench} {commandBuffer : Handle} {a : Action}
    (h : Clears commandBuffer s a) :
    (s.step a).gateway.device.commandBuffers.get? commandBuffer = some [] := by
  cases h with
  | allocation next =>
    show (s.gateway.device.commandBuffers.insert (s.gateway.device.issued + 1) []).get? _ = _
    rw [Table.get?_insert, if_pos next]
  | submission known =>
    obtain ⟨commands, hc⟩ := Table.contains_iff.mp known
    show (s.gateway.device.submit commandBuffer).2.commandBuffers.get? commandBuffer = _
    rw [(Device.submit_refilled _ _).commandBuffers, Table.get?_modify, if_pos rfl, hc]
    rfl

/-- From its allocation or its last submission on, a command buffer holds what the recordings into it
that were answered stand for, in the order of the calls. A recording that is refused leaves the
gateway as it is: the device, and what was announced. -/
theorem transcription {types : List Mask} {faults : Faults} {before : List Action} {start : Action}
    {commandBuffer : Handle}
    (clears : Clears commandBuffer ((ofTypes types faults).run before) start)
    {actions : List Action} (confined : ∀ a ∈ actions, Confined commandBuffer a) :
    ((((ofTypes types faults).run before).step start).run actions).gateway.device.recorded
        commandBuffer =
      (((ofTypes types faults).run before).step start).transcript commandBuffer actions ∧
    ∀ (t : Tensor) (g : Gateway) (traced : Bool) (k : Handle) (r : Tensor.Recording)
      (e : TensorError), (t.record g traced k r).1 = .error e → (t.record g traced k r).2 = g := by
  constructor
  · have hs := ((Orderly.ofTypes types faults).run before).step start
    exact Device.recorded_of_get? (waiting_transcript hs confined (waiting_cleared clears))
  · intro t g traced k r e he
    rw [Tensor.record_eq] at he ⊢
    cases hw : t.wording r with
    | error e' => rfl
    | ok cs =>
      rw [hw] at he
      cases he

/-- A staged tensor and one that the host sees. -/
def mixedPair : List Action :=
  [.build { dtype := .float, kind := .device, elements := some 1 },
    .build { dtype := .float, kind := .host, elements := some 2 }]

/-- Of these the second is refused for want of a staging buffer, and the last since the tensor is
gone. -/
def mixedRecordings : List Action :=
  [.record 1 false 7 (.upload .shaderRead), .record 2 true 7 (.upload .shaderRead),
    .record 2 false 7 (.copyFrom 1), .destroy 1, .record 1 false 7 (.download .shaderWrite)]

theorem transcription_mixed :
    ((((ofTypes [MemoryFlags.deviceLocal, Placement.hostCoherent]).run mixedPair).step
      (.outside .newCommandBuffer)).run mixedRecordings).gateway.device.recorded 7 =
      [.wholeCopy 3 1 4, .wholeBarrier 1 4 .transferWrite .shaderRead, .wholeCopy 1 5 4] := by
  refine (transcription (.allocation ?_) ?_).1.trans ?_
  · decide +kernel
  · intro a ha
    simp only [mixedRecordings, List.mem_cons, List.not_mem_nil, or_false] at ha
    rcases ha with rfl | rfl | rfl | rfl | rfl <;> trivial
  · decide +kernel

end TensorMemory.Bench
