import TensorMemory.Proofs.Bench.Ledger
import TensorMemory.Proofs.Bench.Steps

/-!
Actions as turns. Every action that goes to a tensor runs tensor code for that tensor alone, and
hands on only what the tensor held (`turn_of_step`).
-/

namespace TensorMemory.Bench

open Gateway (Exchange)

/-! ## Turns -/

theorem Accounted.orderly {s : Bench} (hs : Accounted s) : Orderly s := ⟨hs.numbered, hs.numbers⟩

section Turns

variable {s : Bench} {n : Nat} {t : Tensor}

theorem Exchange.calls_entry {g : Gateway} {cs : List Call} {taken gone new : List Asset}
    (h : Exchange s.entry g cs taken gone new) : g.calls = cs := by
  obtain ⟨ms, hp⟩ := h.passage
  exact hp.calls

theorem turn_apply (hs : Accounted s) {f : Tensor → Gateway → Tensor × Gateway} {cs : List Call}
    {taken : List Asset} (ht : s.tensors.get? n = some t)
    (he : Exchange s.entry (f t s.entry).2 cs taken t.assets (f t s.entry).1.assets)
    (hl : (f t s.entry).1.loans ⊆ t.loans) : Turn s (s.apply n f) n taken := by
  have hself := apply_tensor ht f
  refine ⟨?_, ?_, outside_apply s n f, fun m hm => apply_others ht f hm, ?_, ?_, ?_, ?_, ?_⟩
  · rw [holdings_some ht, holdings_some hself, apply_gateway ht, Exchange.calls_entry he]
    exact he
  · rw [apply_some ht]
  · simp
  · simpa using hs.numbers ht
  · simp
  · intro m a ha
    exact .inl (lent_apply s n f ▸ ha)
  · intro u hu a ha
    rw [hself] at hu
    cases hu
    rw [lent_apply]
    exact hs.borrowed ht a (hl ha)

/-- Nothing that a tensor holds changes hands. -/
theorem turn_apply_keep (hs : Accounted s) {f : Tensor → Gateway → Gateway} {cs : List Call}
    {taken : List Asset} (ht : s.tensors.get? n = some t)
    (he : Exchange s.entry (f t s.entry) cs taken [] []) :
    Turn s (s.apply n fun t g => (t, f t g)) n taken :=
  turn_apply (f := fun t g => (t, f t g)) hs ht (he.retain (hs.live_of_assets ht)) fun _ ha => ha

theorem turn_rebuild (hs : Accounted s) (ht : s.tensors.get? n = some t) (data : Block)
    (size elementSize : Nat) :
    Turn s (s.apply n fun t g => (t.rebuild g data size elementSize).2) n
      (t.mapped ++ t.assets ++ (t.rebuild s.entry data size elementSize).2.1.mapped) := by
  obtain ⟨cs, he, hl⟩ := Tensor.rebuild_exchange (g := s.entry) hs.numbered
    (hs.live_of_assets ht) data size elementSize
  exact turn_apply hs ht he hl

theorem turn_destroy (hs : Accounted s) (ht : s.tensors.get? n = some t) :
    Turn s (s.apply n Tensor.destroy) n (t.mapped ++ t.assets) := by
  obtain ⟨cs, he⟩ := t.destroy_exchange (g := s.entry) hs.numbered
  exact turn_apply hs ht (by simpa using he) (by simp)

theorem turn_build (hs : Accounted s) (plan : TensorPlan)
    (hl : ∀ a ∈ plan.loans, a.handle ≤ s.gateway.device.issued) :
    Turn s (s.build plan) (s.built + 1) ((s.build plan).mappings (s.built + 1)) := by
  have hnew : s.built < s.built + 1 := Nat.lt_succ_self _
  have hself := build_tensor hs.orderly plan
  have hgateway : (s.build plan).gateway = (plan.build s.entry).2 := rfl
  cases hb : plan.build s.entry with
  | mk r g =>
  rw [hb] at hself hgateway
  obtain ⟨cs, hx⟩ := TensorPlan.build_exchange (g := s.entry) hs.numbered hb
  refine ⟨?_, ?_, rfl, fun m hm => build_others s plan hm, Nat.le_succ _, Nat.le_refl _,
    List.subset_append_left .., ?_, ?_⟩
  · rw [hs.holdings_new hnew, holdings, mappings, hself, hgateway]
    cases r with
    | error e =>
      rw [Exchange.calls_entry hx]
      exact hx
    | ok t =>
      rw [Exchange.calls_entry hx.1]
      exact hx.1
  · rfl
  · intro m a ha
    rcases List.mem_append.mp ha with ha | ha
    · exact .inl ha
    · obtain ⟨b, hb, he⟩ := List.mem_map.mp ha
      rw [Prod.mk.injEq] at he
      rw [← he.1, ← he.2]
      exact .inr ⟨rfl, hnew, hl b hb⟩
  · intro t ht a ha
    rw [hself] at ht
    cases r with
    | error e => cases ht
    | ok u =>
      cases ht
      exact List.mem_append_right _ (List.mem_map.mpr ⟨a, hx.2 ha, rfl⟩)

theorem turn_drop (hs : Accounted s) (ht : s.tensors.get? n = some t) :
    Turn s (s.drop n) n (t.mapped ++ t.assets) := by
  obtain ⟨cs, hx⟩ := t.destroy_exchange (g := s.entry) hs.numbered
  have hgone := drop_tensor s n
  have hgateway : (s.drop n).gateway = (t.destroy s.entry).2 := apply_gateway ht Tensor.destroy
  have hempty : (s.drop n).holdings n = [] := by simp [holdings, hgone]
  have hdestroy := turn_destroy hs ht
  refine ⟨?_, hdestroy.history, hdestroy.outside, fun m hm => drop_others ht hm, hdestroy.builtLe,
    hdestroy.numberLe, hdestroy.lent, hdestroy.newlyLent, ?_⟩
  · rw [holdings_some ht, hempty, hgateway, Exchange.calls_entry hx]
    exact hx
  · intro u hu
    rw [hgone] at hu
    cases hu

end Turns

/-! ## Every action -/

/-- What is lent has been given out by the device before, and what is released past the tensors is
nothing that tensor code created. -/
def Fair (s : Bench) : Action → Prop
  | .build plan => ∀ a ∈ plan.loans, a.handle ≤ s.gateway.device.issued
  | .outside op => ∀ a ∈ op.released, a ∉ Call.created s.calls
  | _ => True

/-- An action that goes to a tensor is a turn of that tensor or, if there is no such tensor,
nothing at all. -/
theorem turn_of_step {s : Bench} (hs : Accounted s) {a : Action} (hf : Fair s a) :
    (∃ op, a = .outside op) ∨ s.step a = s ∨ ∃ n taken, Turn s (s.step a) n taken := by
  have kept (hk : keepsTensors a = true) :
      s.step a = s ∨ ∃ n taken, Turn s (s.step a) n taken := by
    obtain ⟨n, f, he, hx⟩ := s.step_keeps hk
    rw [he]
    refine apply_cases (R := Turn s) fun t ht => ?_
    obtain ⟨cs, hx⟩ := hx t
    exact ⟨[], turn_apply_keep hs ht hx⟩
  cases a with
  | build plan => exact .inr (.inr ⟨_, _, turn_build hs plan hf⟩)
  | rebuild n data size elementSize =>
    exact .inr (apply_cases (R := Turn s) fun t ht =>
      ⟨_, turn_rebuild hs ht data size elementSize⟩)
  | destroy n =>
    exact .inr (apply_cases (R := Turn s) fun t ht => ⟨_, turn_destroy hs ht⟩)
  | drop n =>
    cases ht : s.tensors.get? n with
    | some t => exact .inr (.inr ⟨n, _, turn_drop hs ht⟩)
    | none => exact .inr (.inl (drop_none ht))
  | overwrite | overwriteBytes | record | poke => exact .inr (kept rfl)
  | outside op => exact .inl ⟨op, rfl⟩

end TensorMemory.Bench
