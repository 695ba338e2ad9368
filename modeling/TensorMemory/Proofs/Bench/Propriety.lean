import TensorMemory.Proofs.Bench.Conservation
import TensorMemory.Proofs.Bench.Neat

/-!
Tensor code never misuses the device. While the code around the tensors keeps its hands off what is
not its own and off what it has lent (`Lawful`), the bench stays proper, and so no action of a
tensor adds a violation (`propriety`).
-/

namespace TensorMemory.Bench

open Gateway (Exchange)

/-! ## Every action -/

/-- What is lent is a live asset of the code around the tensors; recordings go into command buffers
that the device has; and past the tensors nothing is done to what they created, nor is anything
mapped, unmapped or released that a tensor has on loan. -/
def Lawful (s : Bench) : Action → Prop
  | .build plan => ∀ a ∈ plan.loans, a ∈ s.outside
  | .record _ _ commandBuffer _ => s.gateway.device.commandBuffers.contains commandBuffer = true
  | .outside op => (∀ a ∈ op.taken, a ∉ Call.created s.calls) ∧
      ∀ a ∈ op.disturbed, ∀ n t, s.tensors.get? n = some t → a ∉ t.loans
  | _ => True

namespace Proper

variable {s : Bench}

/-- Whoever is lawful is fair. -/
theorem fair (hs : Proper s) {a : Action} (hl : Lawful s a) : Fair s a := by
  cases a with
  | build plan =>
    exact fun a ha => (hs.numbered.le_issued ((hs.live a).mpr (.inl (hl a ha)))).2
  | outside op =>
    exact fun a ha => hl.1 a (op.disturbed_subset (op.released_subset ha))
  | _ => trivial

/-- A lawful action for a tensor is a neat turn of it, or does nothing for want of a tensor. -/
theorem neat_of_step (hs : Proper s) {a : Action} (hl : Lawful s a) :
    (∃ op, a = .outside op) ∨ s.step a = s ∨ ∃ n taken, Neat s (s.step a) n taken := by
  have kept (n : Nat) (f : Tensor → Gateway → Gateway)
      (he : ∀ t, ∃ cs, Exchange s.entry (f t s.entry) cs [] [] [])
      (hq : ∀ t, (f t s.entry).device.violations = s.gateway.device.violations) :
      s.apply n (fun t g => (t, f t g)) = s ∨
        ∃ m taken, Neat s (s.apply n fun t g => (t, f t g)) m taken := by
    refine apply_cases (R := Neat s) fun t ht => ?_
    obtain ⟨cs, he⟩ := he t
    exact ⟨[], hs.neat_keep ht he (hq t)⟩
  cases a with
  | build plan => exact .inr (.inr ⟨_, hs.neat_build plan hl⟩)
  | rebuild n data size elementSize =>
    exact .inr (apply_cases (R := Neat s) fun t ht => hs.neat_rebuild ht data size elementSize)
  | destroy n => exact .inr (apply_cases (R := Neat s) fun t ht => hs.neat_destroy ht)
  | drop n =>
    cases ht : s.tensors.get? n with
    | some t => exact .inr (.inr ⟨n, hs.neat_drop ht⟩)
    | none => exact .inr (.inl (drop_none ht))
  | overwrite n dtype xs =>
    exact .inr (kept n (fun t g => { g with
      device := (t.overwrite g.device xs).toOption.getD g.device })
      (fun t => ⟨[], write_exchange overwrite_ok⟩) fun t => write_quiet overwrite_ok)
  | overwriteBytes n data =>
    exact .inr (kept n (fun t g => { g with
      device := (t.overwriteBytes g.device data).toOption.getD g.device })
      (fun t => ⟨[], write_exchange overwriteBytes_ok⟩) fun t => write_quiet overwriteBytes_ok)
  | record n traced cb recording =>
    exact .inr (kept n (fun t g => s.performRecording traced cb t g recording)
      (fun t => s.performRecording_exchange traced cb t _ recording)
      fun t => s.performRecording_quiet traced t recording hl)
  | poke n chunk =>
    exact .inr (kept n (fun t g => { g with device := pokePrimary t chunk g.device })
      (fun t => ⟨[], poke_exchange t chunk s.entry⟩)
      fun t => poke_quiet t chunk s.gateway.device)
  | outside op => exact .inl ⟨op, rfl⟩

/-- What goes past the tensors leaves their holdings sound. -/
theorem bypass (hs : Proper s) {op : Device.Operation}
    (hown : ∀ a ∈ op.taken, a ∉ Call.created s.calls)
    (hlent : ∀ a ∈ op.disturbed, ∀ n t, s.tensors.get? n = some t → a ∉ t.loans) :
    Proper (s.bypass op) where
  toAccounted := hs.toAccounted.step (a := .outside op) (hs.fair ⟨hown, hlent⟩)
  sound {n t} ht := by
    have hassets : ∀ a ∈ t.assets, a ∉ op.taken := by
      intro a ha hm
      rw [← holdings_some ht] at ha
      exact hown a hm (mem_created_calls.mpr ⟨n, hs.created_of_holdings ha⟩)
    refine (hs.sound ht).frame hs.numbered (Device.frame_perform s.gateway.device op) hassets ?_
    intro i hi
    refine Device.shape_perform _ op (hs.mapped_old ht hi) fun hd => ?_
    rcases List.mem_append.mp (t.mapped_subset hi) with ha | ha
    · exact hassets _ ha (op.disturbed_subset hd)
    · exact hlent _ hd n t ht ha
  onLoan {n t} ht a ha := by
    have hkept : a ∈ s.outside.filter fun a => a ∉ op.released :=
      List.mem_filter.mpr ⟨hs.onLoan ht a ha, decide_eq_true fun hr =>
        hlent a (op.released_subset hr) n t ht ha⟩
    exact List.mem_append_left _ hkept
  mappedApart := hs.mappedApart

theorem step (hs : Proper s) {a : Action} (hl : Lawful s a) : Proper (s.step a) := by
  rcases hs.neat_of_step hl with ⟨op, rfl⟩ | he | ⟨n, taken, hn⟩
  · exact hs.bypass hl.1 hl.2
  · rw [he]
    exact hs
  · exact hs.neat hn

end Proper

/-- No action for a tensor adds a violation. -/
theorem Proper.quiet {s : Bench} (hs : Proper s) {a : Action} (hl : Lawful s a)
    (ha : ∀ op, a ≠ .outside op) :
    (s.step a).gateway.device.violations = s.gateway.device.violations := by
  rcases hs.neat_of_step hl with ⟨op, he⟩ | he | ⟨n, taken, hn⟩
  · exact absurd he (ha op)
  · rw [he]
  · exact hn.quiet

theorem proper_of_reach {types : List Mask} {faults : Faults} {s : Bench}
    (h : Reach Lawful (.ofTypes types faults) s) : Proper s :=
  h.invariant (.ofTypes types faults) fun _ _ hs hl => hs.step hl

/-! ## Giving back -/

/-- A list in which no value comes out twice for one key, nor for two keys. -/
theorem nodup_filterMap_of_keys {α β κ : Type} [DecidableEq κ] (key : α → κ) {f : α → Option β}
    {xs : List α} (h : ∀ k, ((xs.filter (key · = k)).filterMap f).Nodup)
    (hk : ∀ x ∈ xs, ∀ y ∈ xs, ∀ b, f x = some b → f y = some b → key x = key y) :
    (xs.filterMap f).Nodup := by
  rw [List.Nodup, List.pairwise_filterMap, List.pairwise_iff_getElem]
  intro i j hi hj hij b hb c hc hbc
  subst hbc
  have hkey := hk _ (List.getElem_mem hi) _ (List.getElem_mem hj) b hb hc
  have hown := h (key xs[i])
  rw [List.Nodup, List.pairwise_filterMap, List.pairwise_filter, List.pairwise_iff_getElem] at hown
  exact hown i j hi hj hij (by simp) (by simp [hkey]) b hb b hc rfl

namespace Accounted

variable {s : Bench}

theorem created_callsOf_nodup (h : Accounted s) (n : Nat) :
    ((Call.created (s.callsOf n)).map Asset.handle).Nodup :=
  h.distinct.sublist (((List.filter_sublist.map _).filterMap _).map _)

/-- No handle is given back twice. -/
theorem released_nodup (h : Accounted s) :
    ((Call.released s.calls).map Asset.handle).Nodup := by
  have hcalls : (Call.released s.calls).map Asset.handle =
      s.history.filterMap fun e => e.2.released?.map Asset.handle := by
    rw [Call.released, calls, List.map_filterMap, List.filterMap_map]
    rfl
  rw [hcalls]
  refine nodup_filterMap_of_keys Prod.fst (fun n => ?_) ?_
  · have hp := ((h.ledger n).map Asset.handle).nodup_iff.mp (h.created_callsOf_nodup n)
    rw [List.map_append] at hp
    have hr := (List.nodup_append'.mp hp).1
    rw [Call.released, callsOf, List.map_filterMap, List.filterMap_map] at hr
    exact hr
  · rintro ⟨n, c⟩ hc ⟨m, c'⟩ hc' i hi hi'
    obtain ⟨a, ha, rfl⟩ := Option.map_eq_some_iff.mp hi
    obtain ⟨b, hb, hab⟩ := Option.map_eq_some_iff.mp hi'
    have hca := h.created_of_released (List.mem_filterMap.mpr ⟨c, mem_callsOf.mpr hc, ha⟩)
    have hcb := h.created_of_released (List.mem_filterMap.mpr ⟨c', mem_callsOf.mpr hc', hb⟩)
    obtain rfl := h.created_handle_injective (mem_created_calls.mpr ⟨n, hca⟩)
      (mem_created_calls.mpr ⟨m, hcb⟩) hab.symm
    exact h.created_unique hca hcb

/-- A tensor that owns nothing any more has given back what was created for it. -/
theorem released_of_empty (h : Accounted s) {n : Nat} (hn : s.holdings n = []) {a : Asset}
    (ha : a ∈ Call.created (s.callsOf n)) : a ∈ Call.released (s.callsOf n) := by
  have hm := (h.ledger n).mem_iff.mp ha
  rwa [hn, List.append_nil] at hm

end Accounted

theorem holdings_of_detached {s : Bench} {n : Nat}
    (h : ∀ t, s.tensors.get? n = some t → t.isAttached = false) : s.holdings n = [] := by
  cases ht : s.tensors.get? n with
  | none => simp [holdings, ht]
  | some t =>
    have hr := Tensor.isAttached_eq_false.mp (h t ht)
    rw [holdings_some ht]
    simp [Tensor.assets, Tensor.resources?_of_detached hr]

/-! ## Destroying twice -/

theorem destroy_detached {s : Bench} {n : Nat} {t : Tensor} (ht : s.tensors.get? n = some t) :
    ∃ u, (s.step (.destroy n)).tensors.get? n = some u ∧ u.isAttached = false := by
  refine ⟨(t.destroy s.entry).1, apply_tensor ht Tensor.destroy, ?_⟩
  exact Tensor.isAttached_eq_false.mpr (t.destroy_residence s.entry)

/-- All that is left of a second destroy is a log entry. -/
theorem destroy_again {s : Bench} {n : Nat} {t : Tensor} (ht : s.tensors.get? n = some t)
    (hd : t.isAttached = false) : ∃ notice, notice.metric? = none ∧
      s.step (.destroy n) = { s with gateway := s.entry.tell notice } := by
  obtain ⟨notice, hn, he⟩ : ∃ notice : Notice, notice.metric? = none ∧
      t.destroy s.entry = (t, s.entry.tell notice) := by
    rw [Tensor.destroy, hd]
    exact ⟨_, rfl, rfl⟩
  refine ⟨notice, hn, (apply_some ht Tensor.destroy).trans ?_⟩
  rw [he]
  dsimp only
  rw [Table.modify_eq_self fun u hu => Option.some.inj (ht.symm.trans hu)]
  show { s with
    gateway := _, tensors := _, history := s.history ++ List.map (fun c => (n, c)) [] } = _
  rw [List.map_nil, List.append_nil]

/-- Tensor code never misuses the device. No action for a tensor adds a violation; no handle is
given back twice, and what was created for a tensor that was dropped or destroyed, or whose build
failed, has been given back; and destroying a tensor again makes no call, emits no metric and
changes nothing. -/
theorem propriety {types : List Mask} {faults : Faults} {s : Bench}
    (h : Reach Lawful (.ofTypes types faults) s) :
    (∀ a, Lawful s a → (∀ op, a ≠ .outside op) →
      (s.step a).gateway.device.violations = s.gateway.device.violations) ∧
    ((Call.released s.calls).map Asset.handle).Nodup ∧
    (∀ n, (∀ t, s.tensors.get? n = some t → t.isAttached = false) →
      ∀ a ∈ Call.created (s.callsOf n), a ∈ Call.released (s.callsOf n)) ∧
    ∀ n t, s.tensors.get? n = some t →
      (∃ u, (s.step (.destroy n)).tensors.get? n = some u ∧ u.isAttached = false) ∧
      (t.isAttached = false → ∃ notice, notice.metric? = none ∧
        s.step (.destroy n) = { s with gateway := s.entry.tell notice }) := by
  have hs := proper_of_reach h
  refine ⟨fun a hl ha => hs.quiet hl ha, hs.released_nodup, ?_, ?_⟩
  · exact fun n hn a ha => hs.released_of_empty (holdings_of_detached hn) ha
  · exact fun n t ht => ⟨destroy_detached ht, destroy_again ht⟩

/-- Of two builds that borrow one staging buffer the first fails; the tensor of the second is
uploaded and destroyed. -/
def uploadingRun : Bench :=
  ((((lendingRun.step (.outside .newCommandBuffer)).step
    (.record 2 true 7 (.upload .shaderRead))).step (.destroy 2)))

theorem propriety_uploadingRun :
    Call.created uploadingRun.calls = [.buffer 3, .memory 4, .buffer 5, .memory 6] ∧
      Call.released (uploadingRun.callsOf 2) = [.buffer 5, .memory 6] ∧
      (uploadingRun.step (.destroy 2)).gateway.device.violations = [] := by
  have h : Reach Lawful (.ofTypes [MemoryFlags.deviceLocal, Placement.hostCoherent] refusedBind)
      uploadingRun := by
    refine .step _ (.step _ (.step _ (.step _ (.step _ (.step _ .refl ?_) ?_) ?_) ?_) ?_) ?_
    · exact ⟨List.forall_mem_nil _, List.forall_mem_nil _⟩
    · show ∀ a ∈ stagedPlan.loans, a ∈ _
      decide +kernel
    · show ∀ a ∈ stagedPlan.loans, a ∈ _
      decide +kernel
    · exact ⟨List.forall_mem_nil _, List.forall_mem_nil _⟩
    · show Table.contains _ 7 = true
      decide +kernel
    · trivial
  refine ⟨by decide +kernel, by decide +kernel, ?_⟩
  have hempty : uploadingRun.gateway.device.violations = [] := by decide +kernel
  exact ((propriety h).1 (.destroy 2) trivial fun op he => by cases he).trans hempty

end TensorMemory.Bench
