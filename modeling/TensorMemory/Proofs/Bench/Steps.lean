import TensorMemory.Proofs.Bench.Basic
import TensorMemory.Proofs.Tensor.HostWrites
import TensorMemory.Proofs.Tensor.Recording

/-!
Steps of a bench, with nothing asked of the code around the tensors. An action runs tensor code for
the tensor it names, if there is one, and only that tensor and the gateway change. Tensor code takes
the gateway on a passage, so a step is a run of the device (`device_step`), whatever is lent to the
tensors and whatever is done past them.
-/

namespace TensorMemory.Bench

open Gateway (Exchange Passage)

/-! ## Running tensor code -/

section Apply

variable {s : Bench} {n m : Nat} {t : Tensor}

theorem apply_none (ht : s.tensors.get? n = none) (f : Tensor → Gateway → Tensor × Gateway) :
    s.apply n f = s := by
  rw [apply, ht]

theorem apply_some (ht : s.tensors.get? n = some t) (f : Tensor → Gateway → Tensor × Gateway) :
    s.apply n f =
      { s with
        gateway := (f t s.entry).2
        tensors := s.tensors.modify n fun _ => (f t s.entry).1
        history := s.history ++ (f t s.entry).2.calls.map fun c => (n, c) } := by
  rw [apply, ht]

theorem apply_tensor (ht : s.tensors.get? n = some t)
    (f : Tensor → Gateway → Tensor × Gateway) :
    (s.apply n f).tensors.get? n = some (f t s.entry).1 := by
  simp [apply_some ht, Table.get?_modify, ht]

theorem apply_gateway (ht : s.tensors.get? n = some t)
    (f : Tensor → Gateway → Tensor × Gateway) : (s.apply n f).gateway = (f t s.entry).2 := by
  rw [apply_some ht]

theorem apply_others (ht : s.tensors.get? n = some t) (f : Tensor → Gateway → Tensor × Gateway)
    (hm : m ≠ n) : (s.apply n f).tensors.get? m = s.tensors.get? m := by
  simp [apply_some ht, Table.get?_modify, hm]

/-- Code that leaves its tensor as it is leaves all of them. -/
theorem tensors_apply_keep (ht : s.tensors.get? n = some t)
    {f : Tensor → Gateway → Tensor × Gateway} (hf : (f t s.entry).1 = t) :
    (s.apply n f).tensors = s.tensors := by
  rw [apply_some ht]
  dsimp only
  rw [hf]
  exact Table.modify_eq_self fun u hu => Option.some.inj (ht.symm.trans hu)

@[simp] theorem built_apply (s : Bench) (n : Nat) (f : Tensor → Gateway → Tensor × Gateway) :
    (s.apply n f).built = s.built := by
  unfold apply
  split <;> rfl

@[simp] theorem lent_apply (s : Bench) (n : Nat) (f : Tensor → Gateway → Tensor × Gateway) :
    (s.apply n f).lent = s.lent := by
  unfold apply
  split <;> rfl

@[simp] theorem outside_apply (s : Bench) (n : Nat) (f : Tensor → Gateway → Tensor × Gateway) :
    (s.apply n f).outside = s.outside := by
  unfold apply
  split <;> rfl

/-- Tensor code finds its tensor, or does nothing. -/
theorem apply_cases {R : Bench → Nat → List Asset → Prop} {f : Tensor → Gateway → Tensor × Gateway}
    (h : ∀ t, s.tensors.get? n = some t → ∃ taken, R (s.apply n f) n taken) :
    s.apply n f = s ∨ ∃ m taken, R (s.apply n f) m taken := by
  cases ht : s.tensors.get? n with
  | none => exact .inl (apply_none ht f)
  | some t => exact .inr ⟨n, h t ht⟩

theorem drop_none (ht : s.tensors.get? n = none) : s.drop n = s := by
  show { s.apply n Tensor.destroy with
    tensors := (s.apply n Tensor.destroy).tensors.erase n } = s
  rw [apply_none ht, Table.erase_of_absent ht]

theorem drop_tensor (s : Bench) (n : Nat) : (s.drop n).tensors.get? n = none := by
  show ((s.apply n Tensor.destroy).tensors.erase n).get? n = none
  rw [Table.get?_erase, if_pos rfl]

theorem drop_others (ht : s.tensors.get? n = some t) (hm : m ≠ n) :
    (s.drop n).tensors.get? m = s.tensors.get? m := by
  show ((s.apply n Tensor.destroy).tensors.erase n).get? m = _
  rw [Table.get?_erase, if_neg hm, apply_others ht _ hm]

theorem build_others (s : Bench) (plan : TensorPlan) (hm : m ≠ s.built + 1) :
    (s.build plan).tensors.get? m = s.tensors.get? m := by
  unfold build
  cases plan.build s.entry with
  | mk r g =>
    cases r with
    | error e => rfl
    | ok t => simp [Table.get?_insert, hm]

end Apply

/-- The device's handles are numbered, and no tensor has the number of a build to come. -/
structure Orderly (s : Bench) : Prop where
  numbered : s.gateway.device.Numbered
  numbers : ∀ {n t}, s.tensors.get? n = some t → n ≤ s.built

theorem absent_next {s : Bench} (hs : Orderly s) : s.tensors.get? (s.built + 1) = none := by
  cases ht : s.tensors.get? (s.built + 1) with
  | none => rfl
  | some t => exact absurd (hs.numbers ht) (Nat.not_le.mpr (Nat.lt_succ_self _))

theorem tensors_build (s : Bench) (plan : TensorPlan) :
    (s.build plan).tensors = match (plan.build s.entry).1 with
      | .ok t => s.tensors.insert (s.built + 1) t
      | .error _ => s.tensors := rfl

/-- A build that succeeds puts its tensor under the next number. -/
theorem build_tensor {s : Bench} (hs : Orderly s) (plan : TensorPlan) :
    (s.build plan).tensors.get? (s.built + 1) = (plan.build s.entry).1.toOption := by
  unfold build
  cases plan.build s.entry with
  | mk r g =>
    cases r with
    | error e => exact absent_next hs
    | ok t => simp [Table.get?_insert, Except.toOption]

/-! ## Host writes -/

theorem overwrite_ok {t : Tensor} {d d' : Device} {dtype : ElementType}
    {xs : List (Element dtype)} (h : t.overwrite d xs = .ok d') :
    ∃ place chunk, d' = d.store place chunk := by
  obtain ⟨place, chunk, -, he⟩ := Tensor.overwrite_stores h
  exact ⟨place, chunk, he⟩

theorem overwriteBytes_ok {t : Tensor} {d d' : Device} {data : Block}
    (h : t.overwriteBytes d data = .ok d') : ∃ place chunk, d' = d.store place chunk := by
  obtain ⟨place, chunk, -, he⟩ := Tensor.overwriteBytes_stores h
  exact ⟨place, chunk, he⟩

theorem write_ok {d d' : Device} {buffer : Handle} {chunk : Block}
    (h : d.write buffer chunk = .ok d') : ∃ place chunk, d' = d.store place chunk := by
  unfold Device.write at h
  cases hl : d.locate buffer .empty 0 chunk.size with
  | error e => rw [hl] at h; cases h
  | ok place =>
    rw [hl] at h
    cases h
    exact ⟨_, _, rfl⟩

/-- A write that succeeds stores a block somewhere; one that fails does nothing. -/
theorem write_exchange {ε : Type} {g : Gateway} {r : Except ε Device}
    (h : ∀ {d}, r = .ok d → ∃ place chunk, d = g.device.store place chunk) :
    Exchange g { g with device := r.toOption.getD g.device } [] [] [] [] := by
  cases r with
  | error e => exact .refl g
  | ok d =>
    obtain ⟨place, chunk, rfl⟩ := h rfl
    refine .of_frame (Gateway.Passage.store g place chunk) rfl rfl
      (.refilled (.store g.device place chunk)) ?_
    intro a
    simp only [Except.toOption, Option.getD_some, Device.assets, Device.store, Table.keys_modify]

theorem poke_exchange (t : Tensor) (chunk : Block) (g : Gateway) :
    Exchange g { g with device := pokePrimary t chunk g.device } [] [] [] [] := by
  unfold pokePrimary
  split
  · exact .refl g
  · exact write_exchange write_ok

/-! ## Recording -/

/-- A recording with the tensor in place of its number. There is none of a tensor that is not
there. -/
def recordingFor (s : Bench) : Recording → Option Tensor.Recording
  | .copyFrom source => (s.tensors.get? source).map .copyOf
  | .upload scope => some (.upload scope)
  | .download scope => some (.download scope)
  | .primaryBarrier source target => some (.primaryBarrier source target)
  | .stagingBarrier source target => some (.stagingBarrier source target)

theorem performRecording_eq (s : Bench) (traced : Bool) (commandBuffer : Handle) (t : Tensor)
    (g : Gateway) (r : Recording) : s.performRecording traced commandBuffer t g r =
      match s.recordingFor r with
      | none => g
      | some r => (t.record g traced commandBuffer r).2 := by
  cases r with
  | copyFrom source =>
    simp only [performRecording, recordingFor]
    cases s.tensors.get? source <;> rfl
  | upload scope => rfl
  | download scope => rfl
  | primaryBarrier source target => rfl
  | stagingBarrier source target => rfl

theorem performRecording_exchange (s : Bench) (traced : Bool) (commandBuffer : Handle)
    (t : Tensor) (g : Gateway) (r : Recording) :
    ∃ cs, Exchange g (s.performRecording traced commandBuffer t g r) cs [] [] [] := by
  rw [performRecording_eq]
  cases s.recordingFor r with
  | none => exact ⟨[], .refl g⟩
  | some r =>
    dsimp only
    rw [Tensor.record_eq]
    cases t.wording r with
    | error e => exact ⟨[], .refl g⟩
    | ok commands => exact g.enterAll_exchange traced commandBuffer commands

/-! ## Every action -/

theorem build_passage {s : Bench} (hs : Orderly s) (plan : TensorPlan) :
    ∃ cs ms, Passage s.entry (s.build plan).gateway cs ms := by
  have hgateway : (s.build plan).gateway = (plan.build s.entry).2 := rfl
  rw [hgateway]
  cases hb : plan.build s.entry with
  | mk r g =>
    obtain ⟨cs, hx⟩ := TensorPlan.build_exchange (g := s.entry) hs.numbered hb
    cases r with
    | error e => exact ⟨cs, hx.passage⟩
    | ok t => exact ⟨cs, hx.1.passage⟩

theorem rebuild_passage {g : Gateway} (hg : g.device.Numbered) (t : Tensor) (data : Block)
    (size elementSize : Nat) :
    ∃ cs ms, Passage g (t.rebuild g data size elementSize).2.2 cs ms := by
  rcases Tensor.rebuild_spec hg t data size elementSize with
    ⟨e, -, he⟩ | ⟨g₀, cs, r, g', -, -, hx, -, he, cs', hs⟩
  · rw [he]
    exact ⟨[], [], .refl g⟩
  rw [he]
  obtain ⟨ms, hp⟩ := hx.passage
  cases r with
  | error e => exact ⟨_, _, hp.trans hs.passage⟩
  | ok resources =>
    obtain ⟨ps, qs, hf⟩ := hs
    exact ⟨_, _, hp.trans hf.passage⟩

/-- Actions for which tensor code runs and leaves its tensor as it is. -/
def keepsTensors : Action → Bool
  | .overwrite .. | .overwriteBytes .. | .record .. | .poke .. => true
  | _ => false

theorem step_keeps (s : Bench) {a : Action} (h : keepsTensors a = true) :
    ∃ (n : Nat) (f : Tensor → Gateway → Gateway), s.step a = s.apply n (fun t g => (t, f t g)) ∧
      ∀ t, ∃ cs, Exchange s.entry (f t s.entry) cs [] [] [] := by
  cases a with
  | overwrite n dtype xs =>
    exact ⟨n, fun t g => { g with device := (t.overwrite g.device xs).toOption.getD g.device },
      rfl, fun t => ⟨[], write_exchange overwrite_ok⟩⟩
  | overwriteBytes n data =>
    exact ⟨n,
      fun t g => { g with device := (t.overwriteBytes g.device data).toOption.getD g.device },
      rfl, fun t => ⟨[], write_exchange overwriteBytes_ok⟩⟩
  | record n traced commandBuffer recording =>
    exact ⟨n, fun t g => s.performRecording traced commandBuffer t g recording, rfl,
      fun t => s.performRecording_exchange traced commandBuffer t _ recording⟩
  | poke n chunk =>
    exact ⟨n, fun t g => { g with device := pokePrimary t chunk g.device }, rfl,
      fun t => ⟨[], poke_exchange t chunk s.entry⟩⟩
  | build | rebuild | destroy | drop | outside => cases h

/-- An action goes past the tensors, or finds no tensor, or takes the gateway on a passage. -/
theorem passage_of_step {s : Bench} (hs : Orderly s) (a : Action) :
    (∃ op, a = .outside op) ∨ s.step a = s ∨
      ∃ cs ms, Passage s.entry (s.step a).gateway cs ms := by
  have own (n : Nat) (f : Tensor → Gateway → Tensor × Gateway)
      (h : ∀ t, ∃ cs ms, Passage s.entry (f t s.entry).2 cs ms) :
      s.apply n f = s ∨ ∃ cs ms, Passage s.entry (s.apply n f).gateway cs ms := by
    cases ht : s.tensors.get? n with
    | none => exact .inl (apply_none ht f)
    | some t =>
      rw [apply_gateway ht]
      exact .inr (h t)
  have destroyed (t : Tensor) : ∃ cs ms, Passage s.entry (t.destroy s.entry).2 cs ms := by
    obtain ⟨cs, hx⟩ := t.destroy_exchange (g := s.entry) hs.numbered
    exact ⟨cs, hx.passage⟩
  have kept (h : keepsTensors a = true) :
      s.step a = s ∨ ∃ cs ms, Passage s.entry (s.step a).gateway cs ms := by
    obtain ⟨n, f, he, hf⟩ := s.step_keeps h
    rw [he]
    refine own n _ fun t => ?_
    obtain ⟨cs, hx⟩ := hf t
    exact ⟨cs, hx.passage⟩
  cases a with
  | build plan => exact .inr (.inr (build_passage hs plan))
  | rebuild n data size elementSize =>
    exact .inr (own n (fun t g => (t.rebuild g data size elementSize).2)
      fun t => rebuild_passage (g := s.entry) hs.numbered t data size elementSize)
  | destroy n => exact .inr (own n Tensor.destroy destroyed)
  | drop n =>
    cases ht : s.tensors.get? n with
    | none => exact .inr (.inl (drop_none ht))
    | some t =>
      have hgateway : (s.step (.drop n)).gateway = (t.destroy s.entry).2 :=
        apply_gateway ht Tensor.destroy
      rw [hgateway]
      exact .inr (.inr (destroyed t))
  | overwrite | overwriteBytes | record | poke => exact .inr (kept rfl)
  | outside op => exact .inl ⟨op, rfl⟩

/-- A step is a run of the device. -/
theorem device_step {s : Bench} (hs : Orderly s) (a : Action) :
    ∃ ops, (s.step a).gateway.device = s.gateway.device.run ops := by
  rcases passage_of_step hs a with ⟨op, rfl⟩ | he | ⟨cs, ms, hp⟩
  · exact ⟨[op], rfl⟩
  · exact ⟨[], by rw [he]; rfl⟩
  · exact hp.device

theorem issued_step {s : Bench} (hs : Orderly s) (a : Action) :
    s.gateway.device.issued ≤ (s.step a).gateway.device.issued := by
  obtain ⟨ops, hops⟩ := device_step hs a
  rw [hops]
  exact Device.issued_le_run _ _

namespace Orderly

variable {s : Bench}

theorem ofTypes (types : List Mask) (faults : Faults) : Orderly (Bench.ofTypes types faults) where
  numbered := .ofTypes types
  numbers h := by cases h

theorem numbers_step (hs : Orderly s) {a : Action} {n : Nat} {t : Tensor}
    (ht : (s.step a).tensors.get? n = some t) : n ≤ (s.step a).built := by
  have own {m : Nat} {f : Tensor → Gateway → Tensor × Gateway}
      (ht : (s.apply m f).tensors.get? n = some t) : n ≤ s.built := by
    cases hu : s.tensors.get? m with
    | none => exact hs.numbers (apply_none hu f ▸ ht)
    | some u =>
      by_cases hnm : n = m
      · exact hnm ▸ hs.numbers hu
      · exact hs.numbers (apply_others hu f hnm ▸ ht)
  cases a with
  | build plan =>
    show n ≤ s.built + 1
    by_cases hn : n = s.built + 1
    · exact Nat.le_of_eq hn
    · exact Nat.le_succ_of_le (hs.numbers (build_others s plan hn ▸ ht))
  | drop m =>
    have hkept : (s.apply m Tensor.destroy).tensors.get? n = some t := by
      replace ht : ((s.apply m Tensor.destroy).tensors.erase m).get? n = some t := ht
      rw [Table.get?_erase] at ht
      split at ht
      · cases ht
      · exact ht
    show n ≤ (s.apply m Tensor.destroy).built
    rw [built_apply]
    exact own hkept
  | outside op => exact hs.numbers ht
  | rebuild m | destroy m | overwrite m | overwriteBytes m | record m | poke m =>
    simp only [step, rewrite, built_apply] at ht ⊢
    exact own ht

theorem step (hs : Orderly s) (a : Action) : Orderly (s.step a) where
  numbered := by
    obtain ⟨ops, hops⟩ := device_step hs a
    rw [hops]
    exact hs.numbered.run ops
  numbers := hs.numbers_step

end Orderly

/-! ## What becomes of a tensor -/

/-- A tensor that there is after a step was there before, or was built, rebuilt or destroyed. -/
theorem tensor_cases {s : Bench} (hs : Orderly s) {a : Action} {n : Nat} {t : Tensor}
    (ht : (s.step a).tensors.get? n = some t) :
    s.tensors.get? n = some t ∨ t.residence = .detached ∨
      (∃ plan, a = .build plan ∧ n = s.built + 1 ∧ (plan.build s.entry).1 = .ok t) ∨
      ∃ u data size elementSize, a = .rebuild n data size elementSize ∧
        s.tensors.get? n = some u ∧ t = (u.rebuild s.entry data size elementSize).2.1 := by
  have own {m : Nat} {f : Tensor → Gateway → Tensor × Gateway}
      (ht : (s.apply m f).tensors.get? n = some t) :
      s.tensors.get? n = some t ∨
        n = m ∧ ∃ u, s.tensors.get? n = some u ∧ t = (f u s.entry).1 := by
    cases hu : s.tensors.get? m with
    | none => exact .inl (apply_none hu f ▸ ht)
    | some u =>
      by_cases hnm : n = m
      · subst hnm
        rw [apply_tensor hu] at ht
        exact .inr ⟨rfl, u, hu, (Option.some.inj ht).symm⟩
      · exact .inl (apply_others hu f hnm ▸ ht)
  have kept (hk : keepsTensors a = true) : s.tensors.get? n = some t := by
    obtain ⟨m, f, he, -⟩ := s.step_keeps hk
    rw [he] at ht
    rcases own ht with ho | ⟨-, u, hu, rfl⟩
    · exact ho
    · exact hu
  cases a with
  | build plan =>
    by_cases hn : n = s.built + 1
    · subst hn
      rw [step, build_tensor hs] at ht
      refine .inr (.inr (.inl ⟨plan, rfl, rfl, ?_⟩))
      cases hr : (plan.build s.entry).1 with
      | error e =>
        rw [hr] at ht
        cases ht
      | ok u =>
        rw [hr] at ht
        exact congrArg Except.ok (Option.some.inj ht)
    · exact .inl ((build_others s plan hn).symm.trans ht)
  | rebuild m data size elementSize =>
    rcases own (f := fun t g => (t.rebuild g data size elementSize).2) ht with
      ho | ⟨rfl, u, hu, he⟩
    · exact .inl ho
    · exact .inr (.inr (.inr ⟨u, data, size, elementSize, rfl, hu, he⟩))
  | destroy m =>
    rcases own ht with ho | ⟨-, u, -, rfl⟩
    · exact .inl ho
    · exact .inr (.inl (u.destroy_residence s.entry))
  | drop m =>
    by_cases hn : n = m
    · subst hn
      exact absurd ((drop_tensor s n).symm.trans ht) (by simp)
    · cases hu : s.tensors.get? m with
      | none => exact .inl ((congrArg (·.tensors.get? n) (drop_none hu)).symm.trans ht)
      | some u => exact .inl ((drop_others hu hn).symm.trans ht)
  | overwrite | overwriteBytes | record | poke => exact .inl (kept rfl)
  | outside op => exact .inl ht

/-! ## Runs -/

/-- The bench after a list of actions, whatever they are. -/
def run (s : Bench) (actions : List Action) : Bench := actions.foldl step s

@[simp] theorem run_nil (s : Bench) : s.run [] = s := rfl

@[simp] theorem run_cons (s : Bench) (a : Action) (actions : List Action) :
    s.run (a :: actions) = (s.step a).run actions := rfl

theorem run_append (s : Bench) (actions actions' : List Action) :
    s.run (actions ++ actions') = (s.run actions).run actions' := List.foldl_append

theorem Orderly.run {s : Bench} (hs : Orderly s) (actions : List Action) :
    Orderly (s.run actions) := by
  induction actions generalizing s with
  | nil => exact hs
  | cons a actions ih => exact ih (hs.step a)

/-- Whatever is done on a bench is a run of its device. -/
theorem device_run {s : Bench} (hs : Orderly s) (actions : List Action) :
    ∃ ops, (s.run actions).gateway.device = s.gateway.device.run ops := by
  induction actions generalizing s with
  | nil => exact ⟨[], rfl⟩
  | cons a actions ih =>
    obtain ⟨first, hfirst⟩ := device_step hs a
    obtain ⟨rest, hrest⟩ := ih (hs.step a)
    exact ⟨first ++ rest, by rw [run_cons, hrest, hfirst, Device.run_append]⟩

theorem Reach.run {allowed : Bench → Action → Prop} {s late : Bench} (h : Reach allowed s late) :
    ∃ actions, late = s.run actions := by
  induction h with
  | refl => exact ⟨[], rfl⟩
  | step a _ _ ih =>
    obtain ⟨actions, rfl⟩ := ih
    exact ⟨actions ++ [a], by rw [run_append]; rfl⟩

end TensorMemory.Bench
