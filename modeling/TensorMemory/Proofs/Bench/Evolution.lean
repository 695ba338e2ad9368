import TensorMemory.Proofs.Bench.Conservation
import TensorMemory.Proofs.Bench.Layout
import TensorMemory.Proofs.Tensor.Waiting

/-!
What becomes of tensors, their buffers and waiting commands when the bench takes a step. A tensor
stays what it is, or holds only what is new (`tensor_step`); so a tensor of which something old is
still live has not changed at all (`unchanged_of_live`), and a buffer that a tensor owns lies where
it was put (`Moored`). This asks nothing of the code around the tensors but that it releases nothing
of theirs.
-/

namespace TensorMemory.Bench

open Gateway (Exchange)

/-! ## Tensors -/

/-- What the tensor holds is sound and came in on the way from the first bench to the second. -/
structure Anew (s s' : Bench) (t : Tensor) : Prop where
  sound : t.Sound s.gateway.faults.mapShift s'.gateway.device
  fresh : ∀ a ∈ t.assets, s.gateway.device.issued < a.handle

theorem anew_of_empty {s s' : Bench} {t : Tensor} (h : ∀ r, t.residence ≠ .live r) :
    Anew s s' t where
  sound r hr := absurd hr (h r)
  fresh a ha := by
    have hnone : t.resources? = none := by
      cases hr : t.resources? with
      | none => rfl
      | some r => exact absurd (Tensor.resources?_eq_some.mp hr) (h r)
    rw [Tensor.assets, hnone] at ha
    cases ha

theorem anew_build {s : Bench} (hs : Orderly s) {plan : TensorPlan} {t : Tensor}
    (ht : (s.build plan).tensors.get? (s.built + 1) = some t) : Anew s (s.build plan) t := by
  rw [build_tensor hs] at ht
  have hgateway : (s.build plan).gateway = (plan.build s.entry).2 := rfl
  rcases hb : plan.build s.entry with ⟨e | t', g⟩
  · rw [hb] at ht
    cases ht
  · rw [hb] at ht hgateway
    cases ht
    obtain ⟨cs, hx, -⟩ := TensorPlan.build_exchange (g := s.entry) hs.numbered hb
    obtain ⟨ms, hp⟩ := hx.passage
    refine ⟨?_, fun a ha => ?_⟩
    · rw [hgateway]
      exact ((TensorPlan.build_sound (g := s.entry) hs.numbered hb).2 t rfl).1
    · rcases hx.fresh a ha with ha | ha
      · cases ha
      · exact (hp.fresh a ha).1

theorem anew_rebuild {s : Bench} (hs : Orderly s) {n : Nat} {t : Tensor}
    (ht : s.tensors.get? n = some t) (data : Block) (size elementSize : Nat) :
    (t.rebuild s.entry data size elementSize).2.1 = t ∨
      Anew s (s.apply n fun t g => (t.rebuild g data size elementSize).2)
        (t.rebuild s.entry data size elementSize).2.1 := by
  have hg : s.entry.device.Numbered := hs.numbered
  have hgateway := apply_gateway ht fun t g => (t.rebuild g data size elementSize).2
  rcases Tensor.rebuild_spec hg t data size elementSize with
    ⟨e, -, he⟩ | ⟨g₀, cs, r, g', -, -, hx, -, he, cs', hs'⟩
  · exact .inl (by rw [he])
  rw [he] at hgateway ⊢
  cases r with
  | error e => exact .inr (anew_of_empty fun r hr => by cases hr)
  | ok resources =>
    obtain ⟨ps, qs, hf⟩ := hs'
    refine .inr ⟨fun r hr => ?_, fun a ha => ?_⟩
    · cases hr
      have hshift : g₀.faults.mapShift = s.gateway.faults.mapShift := by rw [hx.faults]; rfl
      rw [hgateway, ← hshift]
      exact hf.sound (hx.numbered hg)
    · exact Nat.lt_of_le_of_lt hx.frame.issued (hf.later ha).1

/-- A step leaves a tensor as it is, or the tensor holds only what is new. -/
theorem tensor_step {s : Bench} (hs : Orderly s) {a : Action} {n : Nat} {t : Tensor}
    (ht : (s.step a).tensors.get? n = some t) :
    s.tensors.get? n = some t ∨ Anew s (s.step a) t := by
  rcases tensor_cases hs ht with
    hold | hgone | ⟨plan, rfl, rfl, -⟩ | ⟨u, data, size, elementSize, rfl, hu, rfl⟩
  · exact .inl hold
  · refine .inr (anew_of_empty fun r hr => ?_)
    rw [hgone] at hr
    cases hr
  · exact .inr (anew_build hs ht)
  · rcases anew_rebuild hs hu data size elementSize with hsame | hnew
    · rw [hsame]
      exact .inl hu
    · exact .inr hnew

/-! ## Assets -/

/-- What was given out before and is live was live before. -/
theorem live_before {s : Bench} (hs : Orderly s) {a : Action} {x : Asset}
    (hle : x.handle ≤ s.gateway.device.issued) (hx : x ∈ (s.step a).gateway.device.assets) :
    x ∈ s.gateway.device.assets := by
  by_contra hn
  obtain ⟨ops, hops⟩ := device_step hs a
  rw [hops] at hx
  exact Device.dead_run hs.numbered ops hle hn hx

theorem issued_reach {allowed : Bench → Action → Prop} (ha : ∀ s a, allowed s a → Fair s a)
    {s s' : Bench} (h : Reach allowed s s') (hs : Accounted s) :
    Accounted s' ∧ s.gateway.device.issued ≤ s'.gateway.device.issued := by
  refine h.invariant (P := fun x => Accounted x ∧ _ ≤ x.gateway.device.issued)
    ⟨hs, Nat.le_refl _⟩ fun x a hx hok => ?_
  exact ⟨hx.1.step (ha x a hok), Nat.le_trans hx.2 (issued_step hx.1.orderly a)⟩

/-- What is live and was given out before a run began was live then. -/
theorem live_since {allowed : Bench → Action → Prop} (ha : ∀ s a, allowed s a → Fair s a)
    {s s' : Bench} (h : Reach allowed s s') (hs : Accounted s) {x : Asset}
    (hle : x.handle ≤ s.gateway.device.issued) (hx : x ∈ s'.gateway.device.assets) :
    x ∈ s.gateway.device.assets := by
  induction h with
  | refl => exact hx
  | step a run ok ih =>
    obtain ⟨hs', hle'⟩ := issued_reach ha run hs
    exact ih (live_before hs'.orderly (Nat.le_trans hle hle') hx)

/-- A tensor of which something is still live has not changed. -/
theorem unchanged_of_live {s : Bench} (hs : Accounted s) {a : Action} (hf : Fair s a) {n : Nat}
    {x : Asset} (hx : x ∈ s.holdings n) (hlive : x ∈ (s.step a).gateway.device.assets) :
    (s.step a).tensors.get? n = s.tensors.get? n := by
  rcases turn_of_step hs hf with ⟨op, rfl⟩ | he | ⟨m, taken, hturn⟩
  · rfl
  · rw [he]
  by_cases hmn : n = m
  · subst hmn
    rcases ((hs.step hf).live x).mp hlive with ho | ⟨k, hk⟩
    · rw [hturn.outside] at ho
      exact absurd hx (hs.outside_notMem ho)
    have hkn : k = n := by
      by_contra hne
      rw [hturn.holdings_other hne] at hk
      exact hne (hs.holdings_unique hk hx)
    subst hkn
    cases ht : (s.step a).tensors.get? k with
    | none => simp [holdings, ht] at hk
    | some t =>
      rw [holdings_some ht] at hk
      rcases tensor_step hs.orderly ht with hold | hnew
      · exact hold.symm
      · have hle := (hs.numbered.le_issued (hs.live_of_holdings hx)).2
        exact absurd hle (Nat.not_le.mpr (hnew.fresh x hk))
  · exact hturn.others n hmn

/-! ## Buffers in place -/

/-- Every buffer that a tensor owns is on the device as it was created, bound to memory of the
tensor. -/
structure Moored (s : Bench) : Prop extends Accounted s where
  moored : ∀ {c t b}, Behind s.tensors c t b → b.buffer.isOwned = true →
    b.memory.isOwned = true ∧ ∃ need, t.kind.need? c.side = some need ∧
      b.usage = some need.usage ∧ s.gateway.device.buffers.get? b.buffer.handle =
        some ⟨t.byteSize, need.usage, some ⟨b.memory.handle, 0⟩⟩

namespace Moored

variable {s : Bench}

theorem ofTypes (types : List Mask) (faults : Faults) : Moored (Bench.ofTypes types faults) where
  toAccounted := .ofTypes types faults
  moored h := by cases h.tensor

theorem step (hs : Moored s) {a : Action} (hf : Fair s a) : Moored (s.step a) where
  toAccounted := hs.toAccounted.step hf
  moored {c t b} hb ho := by
    rcases tensor_step hs.toAccounted.orderly hb.tensor with hold | hnew
    · obtain ⟨hm, need, hneed, hu, hg⟩ := hs.moored ⟨hold, hb.side⟩ ho
      refine ⟨hm, need, hneed, hu, ?_⟩
      have hmem := hb.mem_assets (BackedBuffer.buffer_mem_assets ho)
      have hlive := (hs.toAccounted.step hf).live_of_assets hb.tensor _ hmem
      obtain ⟨ops, hops⟩ := device_step hs.toAccounted.orderly a
      rw [hops] at hlive ⊢
      exact Device.bound_run hs.numbered ops hg rfl hlive
    · obtain ⟨r, hr, hside⟩ := hb.side
      obtain ⟨need, hneed, hsound⟩ := (hnew.sound r hr).side hside
      exact ⟨hsound.together.trans ho, need, hneed, hsound.known ho, hsound.bound ho⟩

end Moored

theorem moored_of_reach {types : List Mask} {faults : Faults} {s : Bench}
    (h : Reach Fair (.ofTypes types faults) s) : Moored s :=
  h.invariant (.ofTypes types faults) fun _ _ hs hf => hs.step hf

/-! ## Waiting commands -/

/-- Nothing is added to the command buffer, and it is not submitted. -/
def Leaving (commandBuffer : Handle) (s : Bench) : Action → Prop
  | .record n _ k r => k = commandBuffer → ∀ t, s.tensors.get? n = some t → s.commands t r = []
  | .outside op => op.commandBuffer? ≠ some commandBuffer
  | _ => True

theorem waiting_step {s : Bench} (hs : Orderly s) {a : Action} {commandBuffer : Handle}
    (hl : Leaving commandBuffer s a) {commands : List Command}
    (h : s.gateway.device.commandBuffers.get? commandBuffer = some commands) :
    (s.step a).gateway.device.commandBuffers.get? commandBuffer = some commands := by
  have keeps {n : Nat} {f : Tensor → Gateway → Tensor × Gateway}
      (hf : ∀ t, (f t s.entry).2.device.commandBuffers = s.gateway.device.commandBuffers) :
      (s.apply n f).gateway.device.commandBuffers.get? commandBuffer = some commands := by
    cases ht : s.tensors.get? n with
    | none => rw [apply_none ht, h]
    | some t => rw [apply_gateway ht, hf, h]
  have writes {ε : Type} {r : Except ε Device}
      (hr : ∀ {d}, r = .ok d → ∃ place chunk, d = s.gateway.device.store place chunk) :
      (r.toOption.getD s.gateway.device).commandBuffers = s.gateway.device.commandBuffers := by
    cases r with
    | error e => rfl
    | ok d =>
      obtain ⟨place, chunk, rfl⟩ := hr rfl
      rfl
  cases a with
  | build plan =>
    show (plan.build s.entry).2.device.commandBuffers.get? commandBuffer = _
    rw [TensorPlan.commandBuffers_build (g := s.entry) hs.numbered]
    exact h
  | rebuild n data size elementSize =>
    exact keeps fun t => t.commandBuffers_rebuild (g := s.entry) hs.numbered data size elementSize
  | destroy n => exact keeps fun t => t.commandBuffers_destroy s.entry
  | drop n => exact keeps (f := Tensor.destroy) fun t => t.commandBuffers_destroy s.entry
  | overwrite n dtype xs => exact keeps fun t => writes overwrite_ok
  | overwriteBytes n data => exact keeps fun t => writes overwriteBytes_ok
  | record n traced k r =>
    cases ht : s.tensors.get? n with
    | none =>
      have he : s.step (.record n traced k r) = s := apply_none ht fun t g =>
        (t, s.performRecording traced k t g r)
      rw [he, h]
    | some t =>
      rw [device_record ht]
      by_cases hk : k = commandBuffer
      · rw [hl hk t ht]
        exact h
      · rw [Device.recordAll_eq_run]
        refine Device.waiting_run hs.numbered h fun op hop => ?_
        obtain ⟨c, -, rfl⟩ := List.mem_map.mp hop
        exact fun he => hk (Option.some.inj he)
  | poke n chunk =>
    refine keeps fun t => ?_
    dsimp only [pokePrimary]
    split
    · rfl
    · exact writes write_ok
  | outside op => exact Device.waiting_perform hs.numbered h hl

end TensorMemory.Bench
