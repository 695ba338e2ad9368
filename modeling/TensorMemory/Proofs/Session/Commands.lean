import TensorMemory.Proofs.Session.Settings
import TensorMemory.Proofs.Tensor.CommandMetrics
import TensorMemory.Proofs.Tracing.Reception
import TensorMemory.Session.Run

/-!
Command metrics follow the command stream. What a session issues to its devices and what it reports
as metric events are two outputs of one list: the commands that its recordings come to, each with
the gateway and the command buffer that it goes to, and with whether commands are traced at that
moment.
-/

namespace TensorMemory

/-- A command on its way to a device. -/
structure IssuedCommand where
  device : Nat
  commandBuffer : Handle
  command : Command
  /-- Commands were traced when the call was made. -/
  traced : Bool

namespace IssuedCommand

def image (x : IssuedCommand) : MetricEvent := x.command.image x.commandBuffer

def call (x : IssuedCommand) : Nat × Call := (x.device, x.command.call x.commandBuffer)

def record (d : Device) (x : IssuedCommand) : Device := d.record x.commandBuffer x.command

end IssuedCommand

/-- The steps that record, that change the environment or the configuration, or that go about
tracing without an event of their own and without taking away what was printed. -/
def Step.isRecordingOrSetting : Step → Bool
  | .tensor _ step =>
    match step with
    | .copyFrom .. | .upload .. | .download .. | .primaryBarrier .. | .stagingBarrier .. => true
    | _ => false
  | .device _ _ step =>
    match step with
    | .recordBarrier .. => true
    | _ => false
  | .tracing step =>
    match step with
    | .metric _ | .emit _ | .printed => false
    | _ => true
  | .environment _ | .configuration _ | .invalid _ => true
  | .construct .. => false

/-- The gateway as an operation of a session finds it. -/
def Gateway.cleared (g : Gateway) : Gateway := { g with calls := [], notices := [] }

namespace Session

/-- The recording that a step asks for, and the command buffer that it names. -/
def recording? (s : Session) : TensorStep → Option (HandleRef × Tensor.Recording)
  | .copyFrom source commandBuffer =>
    (s.slots.get? source).map fun other => (commandBuffer, .copyOf other.tensor)
  | .upload commandBuffer scope => some (commandBuffer, .upload (scope.getD .shaderRead))
  | .download commandBuffer scope => some (commandBuffer, .download (scope.getD .shaderWrite))
  | .primaryBarrier commandBuffer source target =>
    some (commandBuffer, .primaryBarrier source target)
  | .stagingBarrier commandBuffer source target =>
    some (commandBuffer, .stagingBarrier source target)
  | _ => none

/-- The commands for one command buffer of a device that there is. -/
def issue (s : Session) (i : Nat) (commandBuffer : Handle) (cs : List WholeCommand) :
    List IssuedCommand :=
  if i < s.gateways.length then
    cs.map fun c => ⟨i, commandBuffer, c.command, s.tracesCommands⟩
  else []

/-- The commands that a recording of a tensor comes to; none when it is refused. -/
def issueRecording (s : Session) (sl : Slot) (ref : HandleRef) (r : Tensor.Recording) :
    List IssuedCommand :=
  match s.resolve ref, sl.tensor.wording r with
  | .ok commandBuffer, .ok cs => s.issue sl.device commandBuffer cs
  | _, _ => []

/-- The commands that a step issues. -/
def issues (s : Session) : Step → List IssuedCommand
  | .tensor slot step =>
    match s.slots.get? slot with
    | some sl =>
      match s.recording? step with
      | some (ref, r) => s.issueRecording sl ref r
      | none => []
    | none => []
  | .device i _ (.recordBarrier commandBuffer buffer size source target) =>
    match s.resolve commandBuffer, s.resolve buffer with
    | .ok commandBuffer, .ok buffer => s.issue i commandBuffer [.barrier buffer size source target]
    | _, _ => []
  | _ => []

/-- The metric events that mirror a list of commands: one for each that is traced. -/
def images (xs : List IssuedCommand) : List MetricEvent :=
  (xs.filter (·.traced)).map IssuedCommand.image

/-- Between two sessions, what is heard, the calls and the devices follow one list of commands. -/
structure Follows (s s' : Session) (xs : List IssuedCommand) : Prop where
  hears : Collector.Hears s.collector s'.collector (images xs)
  calls : s'.calls = s.calls ++ xs.map IssuedCommand.call
  devices : ∀ i, s'.device? i =
    (s.device? i).map fun d => (xs.filter (·.device = i)).foldl IssuedCommand.record d

namespace Follows

variable {s s' : Session}

/-- Nothing is issued while the gateways and the calls stay as they are and nothing is heard. -/
theorem of_same (hg : s'.gateways = s.gateways) (hc : Collector.Hears s.collector s'.collector [])
    (hcalls : s'.calls = s.calls) : Follows s s' [] where
  hears := hc
  calls := by simp [hcalls]
  devices i := by simp [device?, hg, Function.comp_def]

theorem refl (s : Session) : Follows s s [] := of_same rfl (.refl _) rfl

end Follows

/-! ## Recordings -/

/-- What is done at a gateway follows a list of commands when the gateway's calls, notices and
device do. -/
theorem useGateway_follows {α : Type} {s : Session} {i : Nat} {g : Gateway}
    (hg : s.gateways[i]? = some g) (absent : α) (f : Gateway → α × Gateway)
    {xs : List IssuedCommand} (hdevice : ∀ x ∈ xs, x.device = i)
    (hmetrics : (f g.cleared).2.metrics = images xs)
    (hcalls : (f g.cleared).2.calls.map (i, ·) = xs.map IssuedCommand.call)
    (hrecorded : (f g.cleared).2.device = xs.foldl IssuedCommand.record g.device) :
    Follows s (s.useGateway i absent f).2 xs := by
  unfold useGateway
  rw [hg]
  refine ⟨?_, ?_, fun j => ?_⟩
  · rw [← hmetrics]
    exact s.collector.hears_dispatchAll _
  · rw [← hcalls]
    rfl
  · show ((s.gateways.set i _)[j]?).map (·.device) = _
    rw [List.getElem?_set]
    by_cases hj : i = j
    · subst hj
      have hall : xs.filter (·.device = i) = xs := by simpa using hdevice
      rw [if_pos rfl, if_pos (List.getElem?_eq_some_iff.mp hg).1, hall]
      simp [device?, hg, ← hrecorded, Gateway.cleared]
    · have hnone : xs.filter (·.device = j) = [] := by
        simp only [List.filter_eq_nil_iff, decide_eq_true_eq]
        intro x hx hxj
        exact hj ((hdevice x hx).symm.trans hxj)
      rw [if_neg hj, hnone]
      simp [device?, Function.comp_def]

/-- Commands that are put down at a gateway are issued to its device. -/
theorem enterAll_follows {α : Type} (s : Session) (i : Nat) (commandBuffer : Handle)
    (cs : List WholeCommand) (absent : α) {f : Gateway → α × Gateway}
    (hf : ∀ g, (f g).2 = g.enterAll s.tracesCommands commandBuffer cs) :
    Follows s (s.useGateway i absent f).2 (s.issue i commandBuffer cs) := by
  cases hg : s.gateways[i]? with
  | none =>
    have hi : ¬ i < s.gateways.length := by simpa using hg
    rw [useGateway, hg, issue, if_neg hi]
    exact .refl s
  | some g =>
    rw [issue, if_pos (List.getElem?_eq_some_iff.mp hg).1]
    refine useGateway_follows hg absent f ?_ ?_ ?_ ?_
    · simp
    · rw [hf, Gateway.metrics_enterAll]
      cases s.tracesCommands <;>
        simp [Gateway.cleared, Gateway.metrics, images, List.filter_map, IssuedCommand.image,
          Function.comp_def]
    · rw [hf, Gateway.calls_enterAll]
      simp [Gateway.cleared, IssuedCommand.call]
    · rw [hf, Gateway.device_enterAll]
      simp [Gateway.cleared, Device.recordAll, List.foldl_map, IssuedCommand.record]

theorem recordStep_follows (s : Session) (sl : Slot) (ref : HandleRef) (r : Tensor.Recording) :
    Follows s (s.recordStep sl ref fun g commandBuffer =>
      sl.tensor.record g s.tracesCommands commandBuffer r).2 (s.issueRecording sl ref r) := by
  unfold recordStep issueRecording
  cases s.resolve ref with
  | error e => exact .refl s
  | ok commandBuffer =>
    cases hw : sl.tensor.wording r with
    | error e =>
      have hnone : s.issue sl.device commandBuffer [] = [] := by simp [issue]
      rw [← hnone]
      refine enterAll_follows s _ _ _ _ fun g => ?_
      simp only [Tensor.record_eq, hw]
      rfl
    | ok cs =>
      refine enterAll_follows s _ _ _ _ fun g => ?_
      simp only [Tensor.record_eq, hw]

/-- A recording that fails comes to no commands. -/
theorem issueRecording_of_failure {s : Session} {sl : Slot} {ref : HandleRef}
    {r : Tensor.Recording} {f : Failure}
    (h : (s.recordStep sl ref fun g commandBuffer =>
      sl.tensor.record g s.tracesCommands commandBuffer r).1 = .failure f) :
    s.issueRecording sl ref r = [] := by
  unfold recordStep at h
  unfold issueRecording
  cases hresolve : s.resolve ref with
  | error e => rfl
  | ok commandBuffer =>
    cases hw : sl.tensor.wording r with
    | error e => rfl
    | ok cs =>
      rw [hresolve] at h
      simp only [Tensor.record_eq, hw, useGateway] at h
      split at h <;> cases h

/-- A recording that a step asks for is recorded for the tensor of its slot. -/
theorem tensorStep_recording {s : Session} (slot : Nat) (sl : Slot) {step : TensorStep}
    {ref : HandleRef} {r : Tensor.Recording} (h : s.recording? step = some (ref, r)) :
    s.tensorStep slot sl step = s.recordStep sl ref fun g commandBuffer =>
      sl.tensor.record g s.tracesCommands commandBuffer r := by
  cases step with
  | copyFrom source commandBuffer =>
    obtain ⟨other, hother, he⟩ := Option.map_eq_some_iff.mp h
    cases he
    simp only [tensorStep, hother]
    rfl
  | upload | download | primaryBarrier | stagingBarrier =>
    cases h
    rfl
  | _ => cases h

/-- No recording takes the tensor's element type. -/
theorem isTyped_of_recording {s : Session} {step : TensorStep}
    {asked : HandleRef × Tensor.Recording} (h : s.recording? step = some asked) :
    step.isTyped = false := by
  cases step with
  | copyFrom | upload | download | primaryBarrier | stagingBarrier => rfl
  | _ => cases h

/-! ## Steps that issue nothing -/

/-- Steps on tracing that send no event are not heard. -/
theorem runTracingStep_follows (s : Session) {step : TracingStep}
    (h : (Step.tracing step).isRecordingOrSetting = true) :
    Follows s (s.runTracingStep step).2 [] := by
  cases step with
  | metric | emit | printed => cases h
  | enter | leave => exact .of_same rfl (.of_same rfl rfl rfl rfl fun _ => rfl) rfl
  | file => exact .refl s
  | install c => exact .of_same rfl (s.collector.hears_install c) rfl
  | installFromEnvironment =>
    simp only [runTracingStep]
    obtain ⟨r, s', hr⟩ : ∃ r s', s.runRequest .getOrLoad = (r, s') := ⟨_, _, rfl⟩
    obtain rfl : s' = { s with
        configuration := (ConfigurationRequest.getOrLoad.run s.environment s.configuration).2 } :=
      (congrArg Prod.snd hr).symm
    rw [hr]
    cases r with
    | error e => exact .of_same rfl (.refl _) rfl
    | ok c =>
      have hinstall : Follows s (install { s with configuration :=
          (ConfigurationRequest.getOrLoad.run s.environment s.configuration).2 } c).2 [] :=
        .of_same rfl (s.collector.hears_install c) rfl
      dsimp only
      split
      · next heq =>
        rw [heq] at hinstall
        exact hinstall
      · next heq =>
        rw [heq] at hinstall
        exact hinstall

/-! ## One step -/

/-- A barrier that is recorded past the tensors fails and issues nothing, or goes to the gateway. -/
theorem recordBarrier_cases (s : Session) (i : Nat) (names : List String)
    (commandBuffer buffer : HandleRef) (size : Nat) (source target : SyncScope) :
    (∃ f, s.answer (.device i names (.recordBarrier commandBuffer buffer size source target)) =
        (.failure f, s)) ∧
      s.issues (.device i names (.recordBarrier commandBuffer buffer size source target)) = [] ∨
    ∃ c b, s.answer (.device i names (.recordBarrier commandBuffer buffer size source target)) =
        s.useGateway i .done (fun g =>
          (.done, g.addWholeBarrier s.tracesCommands c b size source target)) ∧
      s.issues (.device i names (.recordBarrier commandBuffer buffer size source target)) =
        s.issue i c [.barrier b size source target] := by
  simp only [answer, issues, runDeviceStep]
  cases hc : s.resolve commandBuffer with
  | error e =>
    refine .inl ⟨?_, rfl⟩
    split
    · exact ⟨e, by simp [deviceStep, hc, bind, Except.bind]⟩
    · exact ⟨_, rfl⟩
  | ok c =>
    cases hb : s.resolve buffer with
    | error e =>
      refine .inl ⟨?_, rfl⟩
      split
      · exact ⟨e, by simp [deviceStep, hc, hb, bind, Except.bind]⟩
      · exact ⟨_, rfl⟩
    | ok b =>
      by_cases hi : i < s.gateways.length
      · rw [if_pos hi]
        exact .inr ⟨c, b, by simp [deviceStep, hc, hb, bind, Except.bind, pure, Except.pure], rfl⟩
      · rw [if_neg hi]
        exact .inl ⟨⟨_, rfl⟩, if_neg hi⟩

/-- Whatever such a step does, the outputs follow what it issues. -/
theorem answer_follows (s : Session) {step : Step} (h : step.isRecordingOrSetting = true) :
    Follows s (s.answer step).2 (s.issues step) := by
  cases step with
  | construct => cases h
  | invalid => exact .refl s
  | environment step =>
    obtain ⟨environment, guards, he⟩ := s.runEnvironmentStep_same step
    simp only [answer, he]
    exact .of_same rfl (.refl _) rfl
  | configuration step =>
    obtain ⟨configuration, he⟩ := s.runConfigurationStep_same step
    simp only [answer, he]
    exact .of_same rfl (.refl _) rfl
  | tracing step => exact s.runTracingStep_follows h
  | tensor slot step =>
    simp only [answer, runTensorStep, issues]
    cases s.slots.get? slot with
    | none => exact .refl s
    | some sl =>
      dsimp only
      cases hr : s.recording? step with
      | some asked =>
        rw [isTyped_of_recording hr, tensorStep_recording slot sl hr]
        exact s.recordStep_follows sl asked.1 asked.2
      | none =>
        cases step with
        | copyFrom source commandBuffer =>
          have hsource : s.slots.get? source = none := Option.map_eq_none_iff.mp hr
          simp only [TensorStep.isTyped, Bool.false_and, Bool.false_eq_true, if_false, tensorStep,
            hsource]
          exact .refl s
        | upload | download | primaryBarrier | stagingBarrier => cases hr
        | _ => cases h
  | device i names step =>
    cases step with
    | recordBarrier commandBuffer buffer size source target =>
      obtain ⟨⟨f, hfailure⟩, hnone⟩ | ⟨c, b, hrecorded, hissues⟩ :=
        s.recordBarrier_cases i names commandBuffer buffer size source target
      · rw [hnone, hfailure]
        exact .refl s
      · rw [hissues, hrecorded]
        exact s.enterAll_follows i c [.barrier b size source target] _ fun g => rfl
    | _ => cases h

/-- A call that fails issues nothing. -/
theorem issues_of_failure {s : Session} {step : Step} {f : Failure}
    (h : (s.answer step).1 = .failure f) : s.issues step = [] := by
  cases step with
  | tensor slot step =>
    simp only [answer, runTensorStep, issues] at h ⊢
    cases hslot : s.slots.get? slot with
    | none => rfl
    | some sl =>
      rw [hslot] at h
      dsimp only at h ⊢
      cases hr : s.recording? step with
      | none => rfl
      | some asked =>
        rw [isTyped_of_recording hr, tensorStep_recording slot sl hr] at h
        exact issueRecording_of_failure h
  | device i names step =>
    cases step with
    | recordBarrier commandBuffer buffer size source target =>
      obtain ⟨-, hnone⟩ | ⟨c, b, hrecorded, -⟩ :=
        s.recordBarrier_cases i names commandBuffer buffer size source target
      · exact hnone
      · rw [hrecorded] at h
        unfold useGateway at h
        split at h <;> cases h
    | _ => rfl
  | _ => rfl

/-- All commands of a step are traced or none is. -/
theorem traced_of_mem_issues (s : Session) (step : Step) :
    ∀ x ∈ s.issues step, x.traced = s.tracesCommands := by
  have hissue : ∀ i commandBuffer cs, ∀ x ∈ s.issue i commandBuffer cs,
      x.traced = s.tracesCommands := by
    intro i commandBuffer cs x hx
    unfold issue at hx
    split at hx
    · obtain ⟨c, -, rfl⟩ := List.mem_map.mp hx
      rfl
    · cases hx
  intro x hx
  unfold issues at hx
  split at hx
  · split at hx
    · split at hx
      · unfold issueRecording at hx
        split at hx
        · exact hissue _ _ _ x hx
        · cases hx
      · cases hx
    · cases hx
  · split at hx
    · exact hissue _ _ _ x hx
    · cases hx
  · cases hx

/-! ## Runs -/

/-- The reports of a list of steps, and the session after them. -/
def takeAll (s : Session) : List Step → List Report × Session
  | [] => ([], s)
  | first :: rest =>
    let (r, s) := s.step first
    let (rs, s) := s.takeAll rest
    (r :: rs, s)

theorem takeAll_cons (s : Session) (first : Step) (rest : List Step) :
    s.takeAll (first :: rest) = ((s.step first).1 :: ((s.step first).2.takeAll rest).1,
      ((s.step first).2.takeAll rest).2) := rfl

/-- A run reports its steps, and then its end. -/
theorem run_eq_takeAll (s : Session) (steps : List Step) :
    s.run steps = (s.takeAll steps).1 ++ [(s.takeAll steps).2.finish.1] := by
  induction steps generalizing s with
  | nil => rfl
  | cons first rest ih =>
    show (s.step first).1 :: (s.step first).2.run rest = _
    rw [ih]
    rfl

/-- The commands that a list of steps issues, each step in the session that it meets. -/
def issued (s : Session) : List Step → List IssuedCommand
  | [] => []
  | first :: rest => s.issues first ++ (s.step first).2.issued rest

/-- A step starts with nothing received and nothing called, and reports what it came to. -/
theorem step_follows (s : Session) {step : Step} (h : step.isRecordingOrSetting = true) :
    Follows s.refreshed (s.step step).2 (s.issues step) :=
  s.refreshed.answer_follows h

theorem takeAll_devices (s : Session) {steps : List Step}
    (hsteps : ∀ step ∈ steps, step.isRecordingOrSetting = true) :
    (s.takeAll steps).1.flatMap (·.calls) = (s.issued steps).map IssuedCommand.call ∧
      ∀ i, (s.takeAll steps).2.device? i = (s.device? i).map fun d =>
        ((s.issued steps).filter (·.device = i)).foldl IssuedCommand.record d := by
  induction steps generalizing s with
  | nil => exact ⟨rfl, fun i => by simp [takeAll, issued]⟩
  | cons first rest ih =>
    have hfirst := s.step_follows (hsteps first List.mem_cons_self)
    obtain ⟨hcalls, hdevices⟩ :=
      ih (s.step first).2 fun step hstep => hsteps step (List.mem_cons_of_mem _ hstep)
    rw [takeAll_cons, issued]
    refine ⟨?_, fun i => ?_⟩
    · rw [List.flatMap_cons, hcalls]
      show (s.step first).2.calls ++ _ = _
      rw [hfirst.calls]
      simp [refreshed]
    · rw [hdevices, hfirst.devices]
      simp [device?, refreshed, Function.comp_def]

theorem images_append (xs ys : List IssuedCommand) :
    images (xs ++ ys) = images xs ++ images ys := by
  simp [images]

/-- In a scoped session the reports hold one record for each traced command. -/
theorem takeAll_scoped {s : Session} (hs : s.collector.isScoped = true) {steps : List Step}
    (hsteps : ∀ step ∈ steps, step.isRecordingOrSetting = true) :
    ((s.takeAll steps).1.flatMap (·.records)).map (·.event) = images (s.issued steps) := by
  induction steps generalizing s with
  | nil => rfl
  | cons first rest ih =>
    obtain ⟨hscoped, hreceived⟩ :=
      (s.step_follows (hsteps first List.mem_cons_self)).hears.received hs
    have hrest := ih hscoped fun step hstep => hsteps step (List.mem_cons_of_mem _ hstep)
    rw [takeAll_cons, issued, List.flatMap_cons, List.map_append, hrest, images_append]
    show (s.step first).2.collector.received.map (·.event) ++ _ = _
    rw [hreceived]
    rfl

/-- Otherwise the exporters of the subscriber take one record for each traced command. -/
theorem takeAll_installed {s : Session} (hs : s.collector.isScoped = false) {sub : Subscriber}
    (hsub : s.collector.installed = some sub) {steps : List Step}
    (hsteps : ∀ step ∈ steps, step.isRecordingOrSetting = true) :
    ∃ records : List Record, records.map (·.event) = images (s.issued steps) ∧
      Collector.HandsRound s.collector (s.takeAll steps).2.collector sub records := by
  induction steps generalizing s with
  | nil => exact ⟨[], rfl, ⟨by simp [takeAll], by simp [takeAll]⟩⟩
  | cons first rest ih =>
    obtain ⟨hscoped, hinstalled, records, hevents, hround⟩ :=
      (s.step_follows (hsteps first List.mem_cons_self)).hears.handed sub hs hsub
    obtain ⟨records', hevents', hround'⟩ :=
      ih hscoped hinstalled fun step hstep => hsteps step (List.mem_cons_of_mem _ hstep)
    have hboth := hround.trans hround'
    refine ⟨records ++ records', ?_, hboth.printed, hboth.written⟩
    rw [List.map_append, hevents, hevents', issued, images_append]

/-- Commands are traced as the stored configuration says; while none is stored, when the variable
reads as true. -/
theorem tracesCommands_iff (s : Session) : s.tracesCommands = true ↔
    (∃ c, s.configuration = some c ∧ c.traceCommands = true) ∨
      s.configuration = none ∧
        ∃ text, s.environment.get .traceCommands = some text ∧ parseFlag text = .ok true := by
  unfold Session.tracesCommands TensorMemory.tracesCommands
  cases s.configuration with
  | some c => simp
  | none =>
    simp only [Descriptor.get, Descriptor.traceCommands]
    cases s.environment.get .traceCommands with
    | none => simp
    | some text =>
      dsimp only
      cases h : parseFlag text <;> simp [h]

/-- In a session of recordings, mixed with changes of the environment and of the configuration, the
metric events that are heard are the images of the commands issued while they were traced, in order
and one for each: a scoped collector receives them, and otherwise the exporters of the subscriber
take them. The calls that were made and what the devices hold follow from the same list of commands,
to which a call that fails adds nothing. Commands are traced when the stored configuration says so
or, while none is stored, the variable reads as true. -/
theorem command_metrics (s : Session) {steps : List Step}
    (hsteps : ∀ step ∈ steps, step.isRecordingOrSetting = true) :
    (s.collector.isScoped = true →
      ((s.takeAll steps).1.flatMap (·.records)).map (·.event) = images (s.issued steps)) ∧
    (∀ sub, s.collector.isScoped = false → s.collector.installed = some sub →
      ∃ records : List Record, records.map (·.event) = images (s.issued steps) ∧
        Collector.HandsRound s.collector (s.takeAll steps).2.collector sub records) ∧
    ((s.takeAll steps).1.flatMap (·.calls) = (s.issued steps).map IssuedCommand.call ∧
      ∀ i, (s.takeAll steps).2.device? i = (s.device? i).map fun d =>
        ((s.issued steps).filter (·.device = i)).foldl IssuedCommand.record d) ∧
    (∀ (s : Session) (step : Step), ∀ x ∈ s.issues step, x.traced = s.tracesCommands) ∧
    (∀ (s : Session) (step : Step) (f : Failure),
      (s.answer step).1 = .failure f → s.issues step = []) ∧
    ∀ s : Session, s.tracesCommands = true ↔
      (∃ c, s.configuration = some c ∧ c.traceCommands = true) ∨
        s.configuration = none ∧
          ∃ text, s.environment.get .traceCommands = some text ∧ parseFlag text = .ok true :=
  ⟨fun hs => takeAll_scoped hs hsteps, fun _ hs hsub => takeAll_installed hs hsub hsteps,
    s.takeAll_devices hsteps, traced_of_mem_issues, fun _ _ _ h => issues_of_failure h,
    tracesCommands_iff⟩

/-- A session with a staged tensor of two elements in slot 1 and a command buffer. -/
def stagedSession : Session :=
  ((start [.ofDevice (.ofTypes [MemoryFlags.deviceLocal, Placement.hostCoherent])] true).takeAll
    [.construct 0 1 (.ofScalars .float .device [1, 2]),
      .device 0 ["commands"] .newCommandBuffer]).2

/-- The variable turns tracing on, then it no longer reads, and then a configuration is stored. The
last copy is refused. -/
def flaggedSteps : List Step :=
  [.environment (.setRaw .traceCommands " ON "), .tensor 1 (.upload (.named "commands") none),
    .environment (.setRaw .traceCommands "maybe"), .tensor 1 (.upload (.named "commands") none),
    .configuration (.request (.initialise { traceCommands := true })),
    .tensor 1 (.primaryBarrier (.named "commands") .shaderWrite .shaderRead),
    .tensor 1 (.copyFrom 1 (.named "commands"))]

theorem command_metrics_flagged :
    ((stagedSession.takeAll flaggedSteps).1.flatMap (·.records)).map (·.event) =
      [.recorded "copy" 5 8, .recorded "barrier" 5 8, .recorded "barrier" 5 8] := by
  have hsteps : ∀ step ∈ flaggedSteps, step.isRecordingOrSetting = true := by decide +kernel
  refine ((command_metrics stagedSession hsteps).1 ?_).trans ?_
  · decide +kernel
  · decide +kernel

end Session
end TensorMemory
