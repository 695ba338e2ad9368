import TensorMemory.Proofs.Bench.Conservation
import TensorMemory.Proofs.Bench.Recording
import TensorMemory.Proofs.Tensor.Announcements

/-!
Metric events as books of owned handles. Announced minus freed would be what the tensors own, were
it not for rebuilds: the handles that a tensor gives back to be furnished anew are freed and not
announced. The books are off by exactly those (`drift`), and stay off, also when every tensor is
gone.
-/

namespace TensorMemory.Bench

open MetricEvent (announcedIn freedIn announcedIn_append freedIn_append)

/-- Handles announced as owned so far. -/
def announced (s : Bench) : Nat := announcedIn (metricEvents s.gateway.notices)

/-- Handles announced as freed so far. -/
def freed (s : Bench) : Nat := freedIn (metricEvents s.gateway.notices)

/-- Handles that an action frees and does not announce. -/
def forgone (s : Bench) : Action → Nat
  | .rebuild n data size elementSize =>
    ((s.tensors.get? n).map fun t => t.forgone data size elementSize).getD 0
  | _ => 0

/-- Handles freed and not announced in the course of a run. -/
def forgoneIn (s : Bench) : List Action → Nat
  | [] => 0
  | a :: actions => s.forgone a + (s.step a).forgoneIn actions

/-- The books are off by so many handles. -/
def Off (s : Bench) (missing : Nat) : Prop := s.announced = s.freed + s.held.length + missing

theorem length_held (s : Bench) : s.held.length = s.tensors.total fun t => t.assets.length := by
  rw [held, List.length_flatMap]
  rfl

theorem Off.booked {s s' : Bench} {m before after missing : Nat} (h : s.Off m)
    (hb : Booked s.entry s'.gateway before after missing)
    (hheld : s'.held.length + before = s.held.length + after) : s'.Off (m + missing) := by
  obtain ⟨ms, hms, he⟩ := hb
  have hold : s.announced = s.freed + s.held.length + m := h
  have hannounced : s'.announced = s.announced + announcedIn ms := by
    rw [announced, hms, announcedIn_append]
    rfl
  have hfreed : s'.freed = s.freed + freedIn ms := by
    rw [freed, hms, freedIn_append]
    rfl
  unfold Off
  omega

/-- Tensor code that keeps its books keeps those of the bench. -/
theorem Off.apply {s : Bench} {m n missing : Nat} {t : Tensor}
    {f : Tensor → Gateway → Tensor × Gateway} (h : s.Off m) (ht : s.tensors.get? n = some t)
    (hb : Booked s.entry (f t s.entry).2 t.assets.length (f t s.entry).1.assets.length missing) :
    (s.apply n f).Off (m + missing) := by
  rw [← apply_gateway ht f] at hb
  refine h.booked hb ?_
  rw [length_held, length_held, apply_some ht]
  exact Table.total_modify ht ..

theorem Off.build {s : Bench} {m : Nat} (h : s.Off m) (hs : Orderly s) (plan : TensorPlan) :
    (s.build plan).Off m := by
  have hgateway : (s.build plan).gateway = (plan.build s.entry).2 := rfl
  have htensors := tensors_build s plan
  cases hb : plan.build s.entry with
  | mk r g =>
  have hbooked := TensorPlan.build_booked (g := s.entry) hs.numbered hb
  rw [hb] at hgateway htensors
  rw [← show (s.build plan).gateway = g from hgateway] at hbooked
  refine h.booked hbooked ?_
  rw [length_held, length_held, htensors]
  cases r with
  | error e => rfl
  | ok t =>
    have hadded := Table.total_insert (absent_next hs) t fun t => t.assets.length
    simpa [Except.toOption] using hadded

theorem Off.destroy {s : Bench} {m n : Nat} {t : Tensor} (h : s.Off m)
    (ht : s.tensors.get? n = some t) : (s.apply n Tensor.destroy).Off m := by
  show (s.apply n Tensor.destroy).Off (m + 0)
  exact h.apply ht (by simpa using t.destroy_booked s.entry)

theorem Off.drop {s : Bench} {m : Nat} (h : s.Off m) (n : Nat) : (s.drop n).Off m := by
  cases ht : s.tensors.get? n with
  | none => rwa [drop_none ht]
  | some t =>
    have hd : (s.apply n Tensor.destroy).Off m := h.destroy ht
    -- what is forgotten owns nothing any more
    have herase := Table.total_erase (apply_tensor ht Tensor.destroy) fun t => t.assets.length
    have hheld : (s.drop n).held.length = (s.apply n Tensor.destroy).held.length := by
      rw [length_held, length_held, ← herase]
      simp [Bench.drop]
    show (s.drop n).announced = (s.drop n).freed + (s.drop n).held.length + m
    rw [hheld]
    exact hd

theorem Off.step {s : Bench} {m : Nat} (h : s.Off m) (hs : Orderly s) (a : Action) :
    (s.step a).Off (m + s.forgone a) := by
  have quiet {n : Nat} {f : Tensor → Gateway → Gateway}
      (hf : ∀ t, Booked s.entry (f t s.entry) t.assets.length t.assets.length 0) :
      (s.apply n fun t g => (t, f t g)).Off m := by
    cases ht : s.tensors.get? n with
    | none => rwa [apply_none ht]
    | some t => exact h.apply (f := fun t g => (t, f t g)) ht (hf t)
  cases a with
  | build plan => exact h.build hs plan
  | rebuild n data size elementSize =>
    simp only [Bench.step, forgone]
    cases ht : s.tensors.get? n with
    | none => rwa [apply_none ht]
    | some t =>
      exact h.apply (f := fun t g => (t.rebuild g data size elementSize).2) ht
        (t.rebuild_booked (g := s.entry) hs.numbered data size elementSize)
  | destroy n =>
    cases ht : s.tensors.get? n with
    | none =>
      have hsame : s.step (.destroy n) = s := apply_none ht Tensor.destroy
      rw [hsame]
      exact h
    | some t => exact h.destroy ht
  | drop n => exact h.drop n
  | overwrite n dtype xs => exact quiet fun t => .refl s.entry _
  | overwriteBytes n data => exact quiet fun t => .refl s.entry _
  | poke n chunk => exact quiet fun t => .refl s.entry _
  | record n traced commandBuffer r =>
    refine quiet (f := fun t g => s.performRecording traced commandBuffer t g r) fun t => ?_
    rw [performRecording_eq]
    cases s.recordingFor r with
    | none => exact .refl s.entry _
    | some r => exact t.record_booked s.entry traced commandBuffer r _
  | outside op =>
    have hsilent : metricEvents (s.step (.outside op)).gateway.notices =
        metricEvents s.entry.notices ++ [] :=
      (Gateway.metricEvents_advance ..).trans (List.append_nil _).symm
    exact h.booked (.of_metrics (n := 0) hsilent rfl rfl) rfl

theorem Off.run {s : Bench} {m : Nat} (h : s.Off m) (hs : Orderly s) (actions : List Action) :
    (s.run actions).Off (m + s.forgoneIn actions) := by
  induction actions generalizing s m with
  | nil => exact h
  | cons a actions ih =>
    have hrest := ih (h.step hs a) (hs.step a)
    rw [Nat.add_assoc] at hrest
    exact hrest

/-- After any run, more handles are announced as owned than were announced as freed or are owned, by
those that rebuilds gave back; so the books balance if and only if no rebuild gave back any. -/
theorem drift (types : List Mask) (faults : Faults) (actions : List Action) :
    ((ofTypes types faults).run actions).announced =
      ((ofTypes types faults).run actions).freed +
        ((ofTypes types faults).run actions).held.length +
        (ofTypes types faults).forgoneIn actions ∧
    (((ofTypes types faults).run actions).announced =
      ((ofTypes types faults).run actions).freed +
        ((ofTypes types faults).run actions).held.length ↔
      (ofTypes types faults).forgoneIn actions = 0) := by
  have h := Off.run (s := ofTypes types faults) (m := 0) rfl (.ofTypes types faults) actions
  rw [Nat.zero_add] at h
  refine ⟨h, ?_⟩
  unfold Off at h
  omega

/-- A tensor of one element is built and rebuilt. -/
def rebuiltRun : Bench :=
  (ofTypes [Placement.hostCoherent]).run
    [.build
        { dtype := .float
          kind := .host
          elements := some 1
          elementSize := some 4
          data := some (.ofBytes [0, 0, 128, 63]) },
      .rebuild 1 (.ofBytes [0, 0, 0, 64]) 1 4]

/-- Of the four handles announced two were freed, and nothing was said of them. -/
theorem drift_rebuiltRun :
    rebuiltRun.announced = 4 ∧ rebuiltRun.freed = 0 ∧
      rebuiltRun.held = [.buffer 3, .memory 4] ∧
      rebuiltRun.announced ≠ rebuiltRun.freed + rebuiltRun.held.length := by
  decide +kernel

end TensorMemory.Bench
