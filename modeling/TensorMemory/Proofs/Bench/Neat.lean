import TensorMemory.Proofs.Bench.Recording
import TensorMemory.Proofs.Bench.Turns
import TensorMemory.Proofs.Tensor.Soundness

/-!
Neat turns. On a proper bench all holdings are sound and no two tensors map one memory. Whatever a
tensor is asked to do there violates nothing and takes nothing that another one holds or maps
(`Neat`), and so the bench stays proper (`Proper.neat`).
-/

namespace TensorMemory.Bench

open Gateway (Exchange)
open Device (Frame)

structure Proper (s : Bench) : Prop extends Accounted s where
  sound : ∀ {n t}, s.tensors.get? n = some t →
    t.Sound s.gateway.faults.mapShift s.gateway.device
  onLoan : ∀ {n t}, s.tensors.get? n = some t → ∀ a ∈ t.loans, a ∈ s.outside
  mappedApart : ∀ {n m t u}, s.tensors.get? n = some t → s.tensors.get? m = some u →
    ∀ a ∈ t.mapped, a ∈ u.mapped → n = m

namespace Proper

variable {s s' : Bench} {n m : Nat} {t u : Tensor}

theorem ofTypes (types : List Mask) (faults : Faults) : Proper (Bench.ofTypes types faults) where
  toAccounted := .ofTypes types faults
  sound h := by cases h
  onLoan h := by cases h
  mappedApart h := by cases h

theorem assets_old (hs : Proper s) (ht : s.tensors.get? n = some t) {a : Asset}
    (ha : a ∈ t.assets) : a.handle ≤ s.gateway.device.issued :=
  (hs.numbered.le_issued (hs.live_of_assets ht a ha)).2

theorem mapped_old (hs : Proper s) (ht : s.tensors.get? n = some t) {a : Asset}
    (ha : a ∈ t.mapped) : a.handle ≤ s.gateway.device.issued := by
  obtain ⟨i, m, rfl, hm, -⟩ := (hs.sound ht).mapped_mem ha
  exact (hs.numbered.memories hm).2

theorem assets_apart (hs : Proper s) (ht : s.tensors.get? n = some t)
    (hu : s.tensors.get? m = some u) (hmn : m ≠ n) {a : Asset} (ha : a ∈ t.assets) :
    a ∉ u.assets := fun hua => by
  rw [← holdings_some ht] at ha
  rw [← holdings_some hu] at hua
  exact hmn (hs.holdings_unique hua ha)

/-- No tensor maps what another one owns. -/
theorem mapped_not_owned (hs : Proper s) (ht : s.tensors.get? n = some t)
    (hu : s.tensors.get? m = some u) (hmn : m ≠ n) {a : Asset} (ha : a ∈ t.mapped) :
    a ∉ u.assets := by
  rcases List.mem_append.mp (t.mapped_subset ha) with ha | ha
  · exact hs.assets_apart ht hu hmn ha
  · rw [← holdings_some hu]
    exact hs.outside_notMem (hs.onLoan ht a ha)

/-- Memory that was not mapped, or not there, is not mapped by any tensor. -/
theorem notMem_mapped (hs : Proper s) (hu : s.tensors.get? m = some u) {i : Handle}
    (hbefore : i ≤ s.gateway.device.issued →
      ∃ memory, s.gateway.device.memories.get? i = some memory ∧ memory.mapped = false) :
    .memory i ∉ u.mapped := by
  intro hi
  obtain ⟨j, memory, hj, hm, hmapped⟩ := (hs.sound hu).mapped_mem hi
  cases hj
  obtain ⟨memory', hm', hunmapped⟩ := hbefore (hs.mapped_old hu hi)
  cases hm.symm.trans hm'
  rw [hmapped] at hunmapped
  cases hunmapped

end Proper

/-! ## Neat turns -/

/-- A turn that violates nothing, leaves the tensor sound, and takes nothing that another tensor
holds or maps. -/
structure Neat (s s' : Bench) (n : Nat) (taken : List Asset) : Prop where
  turn : Turn s s' n taken
  quiet : s'.gateway.device.violations = s.gateway.device.violations
  others : ∀ m u, m ≠ n → s.tensors.get? m = some u → ∀ a ∈ taken,
    a.handle ≤ s.gateway.device.issued → a ∉ u.assets ∧ a ∉ u.mapped
  sound : ∀ t, s'.tensors.get? n = some t →
    t.Sound s.gateway.faults.mapShift s'.gateway.device
  onLoan : ∀ t, s'.tensors.get? n = some t → ∀ a ∈ t.loans, a ∈ s.outside
  mapped : ∀ t, s'.tensors.get? n = some t → ∀ m u, m ≠ n → s.tensors.get? m = some u →
    ∀ a ∈ t.mapped, a ∉ u.mapped

theorem Turn.faults {s s' : Bench} {n : Nat} {taken : List Asset} (h : Turn s s' n taken) :
    s'.gateway.faults = s.gateway.faults := h.exchange.faults

namespace Proper

variable {s s' : Bench} {n : Nat} {t : Tensor} {taken : List Asset}

theorem neat (hs : Proper s) (h : Neat s s' n taken) : Proper s' where
  toAccounted := hs.toAccounted.turn h.turn
  sound {m u} hu := by
    rw [h.turn.faults]
    by_cases hmn : m = n
    · subst hmn
      exact h.sound u hu
    rw [h.turn.others m hmn] at hu
    have hfree : ∀ a ∈ taken, a ∉ u.assets ∧ a ∉ u.mapped := by
      intro a ha
      refine ⟨fun hau => ?_, fun hau => ?_⟩
      · exact (h.others m u hmn hu a ha (hs.assets_old hu hau)).1 hau
      · exact (h.others m u hmn hu a ha (hs.mapped_old hu hau)).2 hau
    refine (hs.sound hu).frame hs.numbered h.turn.exchange.frame
      (fun a ha hat => (hfree a hat).1 ha) ?_
    intro i hi
    exact h.turn.exchange.frame.memories i (hs.mapped_old hu hi) fun hat => (hfree _ hat).2 hi
  onLoan {m u} hu := by
    rw [h.turn.outside]
    by_cases hmn : m = n
    · subst hmn
      exact h.onLoan u hu
    · rw [h.turn.others m hmn] at hu
      exact hs.onLoan hu
  mappedApart {m k u v} hu hv a ha hva := by
    by_cases hmn : m = n
    · by_cases hkn : k = n
      · exact hmn.trans hkn.symm
      · subst hmn
        rw [h.turn.others k hkn] at hv
        exact absurd hva (h.mapped u hu k v hkn hv a ha)
    · by_cases hkn : k = n
      · subst hkn
        rw [h.turn.others m hmn] at hu
        exact absurd ha (h.mapped v hv m u hmn hu a hva)
      · rw [h.turn.others m hmn] at hu
        rw [h.turn.others k hkn] at hv
        exact hs.mappedApart hu hv a ha hva

/-- A tensor that takes only what it held and mapped itself, or what is new, disturbs no other. -/
theorem neat_of_own (hs : Proper s) (ht : s.tensors.get? n = some t) (h : Turn s s' n taken)
    (hq : s'.gateway.device.violations = s.gateway.device.violations)
    (hown : ∀ a ∈ taken, a ∈ t.mapped ∨ a ∈ t.assets ∨ s.gateway.device.issued < a.handle)
    (hnew : ∀ t', s'.tensors.get? n = some t' →
      t'.Sound s.gateway.faults.mapShift s'.gateway.device ∧ t'.loans ⊆ t.loans ∧
        ∀ a ∈ t'.mapped, a ∈ t.mapped ∨ s.gateway.device.issued < a.handle) :
    Neat s s' n taken where
  turn := h
  quiet := hq
  others m u hmn hu a ha hle := by
    rcases hown a ha with ha | ha | ha
    · exact ⟨hs.mapped_not_owned ht hu hmn ha, fun hau => hmn (hs.mappedApart hu ht a hau ha)⟩
    · exact ⟨hs.assets_apart ht hu hmn ha,
        fun hau => hs.mapped_not_owned hu ht (Ne.symm hmn) hau ha⟩
    · exact absurd hle (Nat.not_le.mpr ha)
  sound t' ht' := (hnew t' ht').1
  onLoan t' ht' a ha := hs.onLoan ht a ((hnew t' ht').2.1 ha)
  mapped t' ht' m u hmn hu a ha hau := by
    rcases (hnew t' ht').2.2 a ha with ha | ha
    · exact hmn (hs.mappedApart hu ht a hau ha)
    · exact absurd (hs.mapped_old hu hau) (Nat.not_le.mpr ha)

end Proper

/-! ## Turns that are neat -/

namespace Proper

variable {s : Bench} {n : Nat} {t : Tensor}

theorem assets_nodup (hs : Proper s) (ht : s.tensors.get? n = some t) : t.assets.Nodup :=
  holdings_some ht ▸ hs.holdings_nodup n

theorem neat_rebuild (hs : Proper s) (ht : s.tensors.get? n = some t) (data : Block)
    (size elementSize : Nat) :
    ∃ taken, Neat s (s.apply n fun t g => (t.rebuild g data size elementSize).2) n taken := by
  obtain ⟨-, -, hl⟩ := Tensor.rebuild_exchange (g := s.entry) hs.numbered (hs.live_of_assets ht)
    data size elementSize
  obtain ⟨hq, hsound, hmapped⟩ := Tensor.rebuild_sound (g := s.entry) (hs.sound ht) hs.numbered
    (hs.assets_nodup ht) data size elementSize
  have hturn := turn_rebuild hs.toAccounted ht data size elementSize
  refine ⟨_, hs.neat_of_own ht hturn ?_ ?_ ?_⟩
  · rw [apply_gateway ht]
    exact hq
  · intro a ha
    rw [List.mem_append, List.mem_append] at ha
    rcases ha with (ha | ha) | ha
    · exact .inl ha
    · exact .inr (.inl ha)
    · exact (hmapped a ha).imp_right .inr
  · intro t' ht'
    rw [apply_tensor ht] at ht'
    cases ht'
    rw [apply_gateway ht]
    exact ⟨hsound, hl, hmapped⟩

/-- Giving back sound holdings is no violation. -/
theorem destroy_quiet (hs : Proper s) (ht : s.tensors.get? n = some t) :
    (s.apply n Tensor.destroy).gateway.device.violations = s.gateway.device.violations := by
  rw [apply_gateway ht, Tensor.destroy_device]
  exact Tensor.releaseHoldings_quiet (hs.sound ht) hs.numbered (hs.assets_nodup ht)

theorem neat_destroy (hs : Proper s) (ht : s.tensors.get? n = some t) :
    ∃ taken, Neat s (s.apply n Tensor.destroy) n taken := by
  have hturn := turn_destroy hs.toAccounted ht
  refine ⟨_, hs.neat_of_own ht hturn (hs.destroy_quiet ht) ?_ ?_⟩
  · intro a ha
    exact (List.mem_append.mp ha).imp_right .inl
  · intro t' ht'
    rw [apply_tensor ht] at ht'
    cases ht'
    refine ⟨fun r hlive => ?_, by simp, by simp⟩
    rw [t.destroy_residence] at hlive
    cases hlive

theorem neat_drop (hs : Proper s) (ht : s.tensors.get? n = some t) :
    ∃ taken, Neat s (s.drop n) n taken := by
  have hturn := turn_drop hs.toAccounted ht
  refine ⟨_, hs.neat_of_own ht hturn (hs.destroy_quiet ht) ?_ ?_⟩
  · intro a ha
    exact (List.mem_append.mp ha).imp_right .inl
  · intro t' ht'
    rw [drop_tensor] at ht'
    cases ht'

/-- Writes and recordings. -/
theorem neat_keep (hs : Proper s) (ht : s.tensors.get? n = some t)
    {f : Tensor → Gateway → Gateway} {cs : List Call}
    (he : Exchange s.entry (f t s.entry) cs [] [] [])
    (hq : (f t s.entry).device.violations = s.gateway.device.violations) :
    Neat s (s.apply n fun t g => (t, f t g)) n [] := by
  refine hs.neat_of_own ht (turn_apply_keep hs.toAccounted ht he) ?_ (fun a ha => by cases ha) ?_
  · rw [apply_gateway ht]
    exact hq
  · intro t' ht'
    rw [apply_tensor ht] at ht'
    cases ht'
    rw [apply_gateway ht]
    refine ⟨?_, fun _ ha => ha, fun a ha => .inl ha⟩
    refine (hs.sound ht).frame hs.numbered he.frame (fun _ _ => List.not_mem_nil) ?_
    exact fun i hi => he.frame.memories i (hs.mapped_old ht hi) List.not_mem_nil

theorem neat_build (hs : Proper s) (plan : TensorPlan) (hl : ∀ a ∈ plan.loans, a ∈ s.outside) :
    ∃ taken, Neat s (s.build plan) (s.built + 1) taken := by
  have hold : ∀ a ∈ plan.loans, a.handle ≤ s.gateway.device.issued := fun a ha =>
    (hs.numbered.le_issued ((hs.live a).mpr (.inl (hl a ha)))).2
  have hturn := turn_build hs.toAccounted plan hold
  have hself := build_tensor hs.toAccounted.orderly plan
  have hgateway : (s.build plan).gateway = (plan.build s.entry).2 := rfl
  cases hb : plan.build s.entry with
  | mk r g =>
  rw [hb] at hself hgateway
  replace hgateway : (s.build plan).gateway = g := hgateway
  obtain ⟨hq, hbuilt⟩ := TensorPlan.build_sound (g := s.entry) hs.numbered hb
  rw [← hgateway] at hq hbuilt
  cases r with
  | error e =>
    have hnone : (s.build plan).tensors.get? (s.built + 1) = none := hself
    have hvacuous {P : Prop} {t : Tensor}
        (ht : (s.build plan).tensors.get? (s.built + 1) = some t) : P := by
      rw [hnone] at ht
      cases ht
    refine ⟨_, hturn, hq, ?_, fun t => hvacuous, fun t => hvacuous, fun t => hvacuous⟩
    intro m u hmn hu a ha
    rw [mappings, hnone] at ha
    cases ha
  | ok t =>
    have hsome : (s.build plan).tensors.get? (s.built + 1) = some t := hself
    obtain ⟨cs, -, hlent⟩ := TensorPlan.build_exchange (g := s.entry) hs.numbered hb
    obtain ⟨hsound, hbefore⟩ := hbuilt t rfl
    -- new memory is later than all there was, and lent memory was not mapped by anyone
    have hfree {m : Nat} {u : Tensor} (hu : s.tensors.get? m = some u) :
        ∀ a ∈ t.mapped, a ∉ u.mapped := by
      intro a ha hau
      obtain ⟨i, memory, rfl, -⟩ := (hs.sound hu).mapped_mem hau
      exact hs.notMem_mapped hu (hbefore i ha) hau
    have htaken : (s.build plan).mappings (s.built + 1) = t.mapped := by
      rw [mappings, hsome]
      rfl
    rw [htaken] at hturn
    refine ⟨_, hturn, hq, ?_, fun u hu => ?_, fun u hu a ha => ?_, fun u hu m v _ hv => ?_⟩
    · intro m u hmn hu a ha hle
      refine ⟨?_, hfree hu a ha⟩
      rcases List.mem_append.mp (t.mapped_subset ha) with hat | hat
      · rcases hturn.exchange.fresh a (holdings_some hsome ▸ hat) with hf | hf
        · rw [hs.holdings_new (Nat.lt_succ_self _)] at hf
          cases hf
        · exact absurd hle (Nat.not_le.mpr (hturn.later hf).1)
      · rw [← holdings_some hu]
        exact hs.outside_notMem (hl a (hlent hat))
    · rw [hsome] at hu
      cases hu
      exact hsound
    · rw [hsome] at hu
      cases hu
      exact hl a (hlent ha)
    · rw [hsome] at hu
      cases hu
      exact hfree hv

end Proper

/-! ## Writes -/

/-- A write that succeeds stores a block; neither it nor one that fails is a violation. -/
theorem write_quiet {ε : Type} {d : Device} {r : Except ε Device}
    (h : ∀ {d'}, r = .ok d' → ∃ place chunk, d' = d.store place chunk) :
    (r.toOption.getD d).violations = d.violations := by
  cases r with
  | error e => rfl
  | ok d' =>
    obtain ⟨place, chunk, rfl⟩ := h rfl
    rfl

theorem poke_quiet (t : Tensor) (chunk : Block) (d : Device) :
    (pokePrimary t chunk d).violations = d.violations := by
  unfold pokePrimary
  split
  · rfl
  · exact write_quiet write_ok

end TensorMemory.Bench
