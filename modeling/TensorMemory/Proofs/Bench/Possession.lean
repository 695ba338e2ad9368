import TensorMemory.Proofs.Bench.Evolution

/-!
What tensors own, whatever is done around them. No two tensors own the same thing, and a primary
buffer that a tensor owns lies where it was put for as long as it is live (`Secure`); a tensor of
which something is still live is the one that it was (`Secure.same`). Nothing is asked of the code
around the tensors, which may even release what is theirs.
-/

namespace TensorMemory

/-- All that a sound tensor owns is live. -/
theorem Tensor.Sound.live {t : Tensor} {shift : Nat} {d : Device} (h : t.Sound shift d) :
    ∀ a ∈ t.assets, a ∈ d.assets := by
  intro a ha
  cases hr : t.resources? with
  | none =>
    rw [Tensor.assets, hr] at ha
    cases ha
  | some r =>
    have hlive := Tensor.resources?_eq_some.mp hr
    rw [Tensor.assets_of_live hlive] at ha
    obtain ⟨b, hb, ha⟩ := List.mem_flatMap.mp ha
    have hsound := h r hlive
    rcases List.mem_cons.mp hb with rfl | hb
    · exact hsound.primary.live a ha
    · have hstaging := hsound.staging
      split at hstaging
      · obtain ⟨b', hb', hsound⟩ := hstaging
        rw [hb'] at hb
        obtain rfl := List.mem_singleton.mp hb
        exact hsound.live a ha
      · rw [hstaging] at hb
        cases hb

namespace Bench

variable {s : Bench} {a : Action} {n : Nat} {t : Tensor}

/-- The tensor that an action builds or rebuilds. -/
def furnishes (s : Bench) : Action → Option Nat
  | .build _ => some (s.built + 1)
  | .rebuild n .. => some n
  | _ => none

/-- A tensor that owns something was there before the step, or was built or rebuilt by it. -/
theorem tensor_furnished (hs : Orderly s) (ht : (s.step a).tensors.get? n = some t) {x : Asset}
    (hx : x ∈ t.assets) : s.tensors.get? n = some t ∨ s.furnishes a = some n := by
  rcases tensor_cases hs ht with
    hold | hgone | ⟨plan, rfl, rfl, -⟩ | ⟨u, data, size, elementSize, rfl, -, -⟩
  · exact .inl hold
  · rw [Tensor.assets, Tensor.resources?_of_detached hgone] at hx
    cases hx
  · exact .inr rfl
  · exact .inr rfl

/-- The handles are numbered, no two tensors own the same, and primary buffers that tensors own are
bound at the start of memory that they own as long as they are live. -/
structure Secure (s : Bench) : Prop extends Orderly s where
  issued : ∀ {n t x}, s.tensors.get? n = some t → x ∈ t.assets →
    x.handle ≤ s.gateway.device.issued
  unique : ∀ {m n t u x y}, s.tensors.get? m = some t → s.tensors.get? n = some u →
    x ∈ t.assets → y ∈ u.assets → x.handle = y.handle → m = n
  primary : ∀ {n t r}, s.tensors.get? n = some t → t.residence = .live r →
    r.backing.primary.buffer.isOwned = true → r.backing.primary.memory.isOwned = true ∧
      ∀ b, s.gateway.device.buffers.get? r.backing.primary.buffer.handle = some b →
        b.binding = some ⟨r.backing.primary.memory.handle, 0⟩

namespace Secure

theorem ofTypes (types : List Mask) (faults : Faults) : Secure (Bench.ofTypes types faults) where
  toOrderly := .ofTypes types faults
  issued ht := by cases ht
  unique ht := by cases ht
  primary ht := by cases ht

theorem issued_step (hs : Secure s) {x : Asset} (ht : (s.step a).tensors.get? n = some t)
    (hx : x ∈ t.assets) : x.handle ≤ (s.step a).gateway.device.issued := by
  rcases tensor_step hs.toOrderly ht with hold | hnew
  · exact Nat.le_trans (hs.issued hold hx) (Bench.issued_step hs.toOrderly a)
  · exact ((hs.toOrderly.step a).numbered.le_issued (hnew.sound.live x hx)).2

/-- What is new has a handle of its own. -/
theorem unique_step (hs : Secure s) {m n : Nat} {t u : Tensor} {x y : Asset}
    (ht : (s.step a).tensors.get? m = some t) (hu : (s.step a).tensors.get? n = some u)
    (hx : x ∈ t.assets) (hy : y ∈ u.assets) (hxy : x.handle = y.handle) : m = n := by
  have apart {m n : Nat} {t u : Tensor} {x y : Asset} (ht : s.tensors.get? m = some t)
      (hu : (s.step a).tensors.get? n = some u) (hx : x ∈ t.assets) (hy : y ∈ u.assets)
      (hxy : x.handle = y.handle) : m = n := by
    rcases tensor_step hs.toOrderly hu with hold | hnew
    · exact hs.unique ht hold hx hy hxy
    · exact absurd (hs.issued ht hx) (Nat.not_le.mpr (hxy ▸ hnew.fresh y hy))
  rcases tensor_furnished hs.toOrderly ht hx with hold | hm
  · exact apart hold hu hx hy hxy
  rcases tensor_furnished hs.toOrderly hu hy with hold | hn
  · exact (apart hold ht hy hx hxy.symm).symm
  · exact Option.some.inj (hm.symm.trans hn)

theorem primary_step (hs : Secure s) {r : Resources} (ht : (s.step a).tensors.get? n = some t)
    (hr : t.residence = .live r) (ho : r.backing.primary.buffer.isOwned = true) :
    r.backing.primary.memory.isOwned = true ∧
      ∀ b, (s.step a).gateway.device.buffers.get? r.backing.primary.buffer.handle = some b →
        b.binding = some ⟨r.backing.primary.memory.handle, 0⟩ := by
  rcases tensor_step hs.toOrderly ht with hold | hnew
  · obtain ⟨hm, hbound⟩ := hs.primary hold hr ho
    refine ⟨hm, fun b hb => ?_⟩
    have hmem : .buffer r.backing.primary.buffer.handle ∈ t.assets := by
      rw [Tensor.assets_of_live hr]
      exact List.mem_flatMap.mpr ⟨_, List.mem_cons_self .., BackedBuffer.buffer_mem_assets ho⟩
    have hlive := Device.buffer_mem_assets.mpr ⟨b, hb⟩
    obtain ⟨b₀, hb₀⟩ := Device.buffer_mem_assets.mp
      (live_before hs.toOrderly (hs.issued hold hmem) hlive)
    obtain ⟨ops, hops⟩ := device_step hs.toOrderly a
    rw [hops] at hb hlive
    have hsame := Device.bound_run hs.numbered ops hb₀ (by rw [hbound b₀ hb₀]; rfl) hlive
    cases hb.symm.trans hsame
    exact hbound b hb₀
  · have hsound := (hnew.sound r hr).primary
    refine ⟨hsound.together.trans ho, fun b hb => ?_⟩
    rw [hsound.bound ho] at hb
    cases hb
    rfl

theorem step (hs : Secure s) (a : Action) : Secure (s.step a) where
  toOrderly := hs.toOrderly.step a
  issued := hs.issued_step
  unique := hs.unique_step
  primary := hs.primary_step

theorem run (hs : Secure s) (actions : List Action) : Secure (s.run actions) := by
  induction actions generalizing s with
  | nil => exact hs
  | cons a actions ih => exact ih (hs.step a)

end Secure

/-! ## Tensors that stay what they are -/

/-- A tensor with an old number was there before the step. Unless it is the same, nothing is left of
what it owned. -/
theorem tensor_origin (hs : Orderly s) {t' : Tensor} (hn : n ≤ s.built)
    (ht' : (s.step a).tensors.get? n = some t') :
    ∃ t, s.tensors.get? n = some t ∧ (t' = t ∨
      ∀ x ∈ t.assets, x.handle ≤ s.gateway.device.issued →
        x ∉ (s.step a).gateway.device.assets) := by
  have own {m : Nat} {f : Tensor → Gateway → Tensor × Gateway}
      (hf : ∀ t, (f t s.entry).1 = t ∨ ∀ x ∈ t.assets, x.handle ≤ s.gateway.device.issued →
        x ∉ (f t s.entry).2.device.assets)
      (ht' : (s.apply m f).tensors.get? n = some t') :
      ∃ t, s.tensors.get? n = some t ∧ (t' = t ∨
        ∀ x ∈ t.assets, x.handle ≤ s.gateway.device.issued →
          x ∉ (s.apply m f).gateway.device.assets) := by
    cases ht : s.tensors.get? m with
    | none => exact ⟨t', apply_none ht f ▸ ht', .inl rfl⟩
    | some t =>
      by_cases hnm : n = m
      · subst hnm
        rw [apply_tensor ht] at ht'
        cases ht'
        rw [apply_gateway ht]
        exact ⟨t, ht, hf t⟩
      · exact ⟨t', apply_others ht f hnm ▸ ht', .inl rfl⟩
  have destroyed (t : Tensor) : ∀ x ∈ t.assets, x ∉ (t.destroy s.entry).2.device.assets := by
    intro x hx hlive
    obtain ⟨cs, hexchange⟩ := t.destroy_exchange (g := s.entry) hs.numbered
    rcases (hexchange.live x).mp hlive with ⟨-, hn⟩ | hnone
    · exact hn hx
    · cases hnone
  cases a with
  | build plan =>
    have hne : n ≠ s.built + 1 := Nat.ne_of_lt (Nat.lt_succ_of_le hn)
    exact ⟨t', (build_others s plan hne).symm.trans ht', .inl rfl⟩
  | rebuild m data size elementSize =>
    refine own (f := fun t g => (t.rebuild g data size elementSize).2) (fun t => ?_) ht'
    rcases Tensor.rebuild_spec (g := s.entry) hs.numbered t data size elementSize with
      ⟨e, -, he⟩ | ⟨g₀, cs, r, g', -, -, hx, -, he, cs', hs'⟩
    · exact .inl (by rw [he])
    · refine .inr fun x hxt hle hlive => ?_
      rw [he] at hlive
      have hgone : x ∉ g₀.device.assets := fun hx₀ => by
        rcases (hx.live x).mp hx₀ with ⟨-, hn⟩ | hnone
        · exact hn hxt
        · cases hnone
      have hle₀ : x.handle ≤ g₀.device.issued := Nat.le_trans hle hx.frame.issued
      have hpassage : ∃ cs ms, Gateway.Passage g₀ g' cs ms := by
        cases r with
        | error e => exact ⟨_, _, hs'.passage⟩
        | ok r =>
          obtain ⟨ps, qs, hf⟩ := hs'
          exact ⟨_, _, hf.passage⟩
      obtain ⟨cs, ms, hp⟩ := hpassage
      obtain ⟨ops, hops⟩ := hp.device
      rw [hops] at hlive
      exact Device.dead_run (hx.numbered hs.numbered) ops hle₀ hgone hlive
  | destroy m => exact own (fun t => .inr fun x hx _ => destroyed t x hx) ht'
  | drop m =>
    by_cases hnm : n = m
    · subst hnm
      exact absurd ((drop_tensor s n).symm.trans ht') (by simp)
    · cases hu : s.tensors.get? m with
      | none => exact ⟨t', (congrArg (·.tensors.get? n) (drop_none hu)).symm.trans ht', .inl rfl⟩
      | some u => exact ⟨t', (drop_others hu hnm).symm.trans ht', .inl rfl⟩
  | overwrite | overwriteBytes | record | poke => exact own (fun _ => .inl rfl) ht'
  | outside op => exact ⟨t', ht', .inl rfl⟩

theorem built_step (s : Bench) (a : Action) : s.built ≤ (s.step a).built := by
  cases a with
  | build plan => exact Nat.le_succ _
  | outside op => exact Nat.le_refl _
  | drop n => exact Nat.le_of_eq (built_apply s n Tensor.destroy).symm
  | _ => simp only [step, rewrite, built_apply, Nat.le_refl]

theorem Secure.reach {allowed : Bench → Action → Prop} {s late : Bench} (hs : Secure s)
    (run : Reach allowed s late) : Secure late ∧
      s.gateway.device.issued ≤ late.gateway.device.issued ∧ s.built ≤ late.built := by
  refine run.invariant (P := fun b => Secure b ∧
    s.gateway.device.issued ≤ b.gateway.device.issued ∧ s.built ≤ b.built)
    ⟨hs, Nat.le_refl _, Nat.le_refl _⟩ fun b a ⟨hb, hissued, hbuilt⟩ _ => ?_
  exact ⟨hb.step a, Nat.le_trans hissued (Bench.issued_step hb.toOrderly a),
    Nat.le_trans hbuilt (built_step b a)⟩

/-- After any run, a tensor of which something is still live is the one that it was. -/
theorem Secure.same {allowed : Bench → Action → Prop} {s late : Bench} (hs : Secure s)
    (run : Reach allowed s late) {t' : Tensor} {x : Asset} (ht : s.tensors.get? n = some t)
    (hx : x ∈ t.assets) (hlive : x ∈ late.gateway.device.assets)
    (ht' : late.tensors.get? n = some t') : t' = t := by
  induction run generalizing t' with
  | refl => exact Option.some.inj (ht'.symm.trans ht)
  | @step b a run _ ih =>
    obtain ⟨hb, hissued, hbuilt⟩ := hs.reach run
    have hle := Nat.le_trans (hs.issued ht hx) hissued
    obtain ⟨u, hu, hsame⟩ :=
      tensor_origin hb.toOrderly (Nat.le_trans (hs.numbers ht) hbuilt) ht'
    obtain rfl := ih (live_before hb.toOrderly hle hlive) hu
    rcases hsame with rfl | hgone
    · rfl
    · exact absurd hlive (hgone x hx hle)

end Bench
end TensorMemory
