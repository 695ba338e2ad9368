import TensorMemory.Proofs.Bench.Conservation
import TensorMemory.Proofs.Tensor.Teardown

/-!
The order of teardown in a whole run, whatever is lent to the tensors and done past them. What tensor
code calls for one tensor touches the pairs of that tensor only (`Stretch`), so it is known of each
pair whether it is still held or in which order it was released (`Tidy`). A pair that is released is
released buffer first if its bind was accepted, and memory first if it was refused (`teardown`).
-/

namespace TensorMemory

/-- Values that are all different come in one order only. -/
theorem not_sublist_swap {α : Type} {xs : List α} {x y : α} (hn : xs.Nodup)
    (h : [x, y].Sublist xs) : ¬[y, x].Sublist xs := by
  induction xs with
  | nil => cases h
  | cons a xs ih =>
    obtain ⟨ha, hn⟩ := List.nodup_cons.mp hn
    intro h'
    cases h with
    | cons _ h =>
      cases h' with
      | cons _ h' => exact ih hn h h'
      | cons_cons _ h' => exact ha (h.subset (by simp))
    | cons_cons _ h =>
      cases h' with
      | cons _ h' => exact ha (h'.subset (by simp))
      | cons_cons _ h' => exact ha (h'.subset (by simp))

theorem Call.BufferFirst.released {cs : List Call} {b m : Handle} (h : BufferFirst cs b m) :
    [Asset.buffer b, .memory m].Sublist (released cs) := List.Sublist.filterMap released? h

theorem Call.MemoryFirst.released {cs : List Call} {b m : Handle} (h : MemoryFirst cs b m) :
    [Asset.memory m, .buffer b].Sublist (released cs) := List.Sublist.filterMap released? h

theorem BackedBuffer.mem_pairs {x : BackedBuffer} {b m : Handle} (h : (b, m) ∈ x.pairs) :
    .buffer b ∈ x.assets ∧ .memory m ∈ x.assets := by
  unfold pairs at h
  split at h
  · next ho =>
    obtain ⟨hb, hm⟩ := Bool.and_eq_true_iff.mp ho
    cases List.mem_singleton.mp h
    simp [assets, hb, hm]
  · cases h

/-- Both handles of a pair are owned. -/
theorem Tensor.mem_pairs {t : Tensor} {b m : Handle} (h : (b, m) ∈ t.pairs) :
    .buffer b ∈ t.assets ∧ .memory m ∈ t.assets := by
  unfold pairs at h
  unfold assets
  cases hr : t.resources? with
  | none => rw [hr] at h; cases h
  | some r =>
    rw [hr] at h
    obtain ⟨x, hx, h⟩ := List.mem_flatMap.mp h
    exact (BackedBuffer.mem_pairs h).imp (List.mem_flatMap_of_mem hx) (List.mem_flatMap_of_mem hx)

namespace Bench

open Gateway (Exchange Handled Passage)

/-- The pairs that all tensors together have to release. -/
def pairs (s : Bench) : List (Handle × Handle) := s.tensors.entries.flatMap fun e => e.2.pairs

/-- The pairs that one tensor has to release. -/
def pairsOf (s : Bench) (n : Nat) : List (Handle × Handle) :=
  ((s.tensors.get? n).map Tensor.pairs).getD []

/-- What is gathered from all tensors is what one of them gives, and the others. -/
theorem gathered_perm {α : Type} (tensors : Table Nat Tensor) (n : Nat) (f : Tensor → List α) :
    (tensors.entries.flatMap fun e => f e.2).Perm
      (((tensors.get? n).map f).getD [] ++ (tensors.erase n).entries.flatMap fun e => f e.2) := by
  cases ht : tensors.get? n with
  | none => rw [Table.erase_of_absent ht]; exact .refl _
  | some t =>
    obtain ⟨xs, ys, he, hk⟩ := Table.entries_of_get? ht
    have hrest : (tensors.erase n).entries = xs ++ ys := by
      have hkept : (xs ++ ys).filter (fun e => e.1 ≠ n) = xs ++ ys :=
        List.filter_eq_self.mpr fun e hm => by simpa using hk e hm
      rw [Table.entries_erase, he, ← hkept]
      simp
    rw [hrest, he, List.flatMap_append, List.flatMap_append, List.flatMap_cons]
    simpa using List.perm_append_comm_assoc ..

/-- Tensor code ran under one number, and the tensors under all other numbers are as they were. -/
structure Stretch (s s' : Bench) (n : Nat) : Prop where
  calls : s'.calls = s.calls ++ s'.gateway.calls
  others : s'.tensors.erase n = s.tensors.erase n
  handled : Handled s.entry s'.gateway (s.pairsOf n) (s'.pairsOf n)
  ledger : (Call.created s'.gateway.calls ++ s.holdings n).Perm
    (Call.released s'.gateway.calls ++ s'.holdings n)
  passage : ∃ ms, Passage s.entry s'.gateway s'.gateway.calls ms

/-- Every pair is held or has been released, and what was created and not released is held. -/
structure Tidy (s : Bench) : Prop where
  paired : Call.Paired [] s.calls s.pairs
  ledger : (Call.created s.calls).Perm (Call.released s.calls ++ s.held)
  issued : ∀ a ∈ Call.created s.calls, a.handle ≤ s.gateway.device.issued
  distinct : ((Call.created s.calls).map Asset.handle).Nodup

theorem Stretch.paired {s s' : Bench} {n : Nat} (h : Stretch s s' n) :
    Call.Paired s.pairs s'.gateway.calls s'.pairs := by
  obtain ⟨cs, hcalls, hp⟩ := h.handled
  obtain rfl : s'.gateway.calls = cs := hcalls
  have hbefore := gathered_perm s.tensors n Tensor.pairs
  have hafter := gathered_perm s'.tensors n Tensor.pairs
  rw [h.others] at hafter
  have hframe := hp.frame ((s.tensors.erase n).entries.flatMap fun e => e.2.pairs)
  exact { hframe.weaken hafter.symm.subset with
    kept := fun p hq => (hframe.weaken hafter.symm.subset).kept p (hbefore.subset hq) }

theorem Tidy.stretch {s s' : Bench} {n : Nat} (hs : Tidy s) (h : Stretch s s' n) : Tidy s' where
  paired := by
    rw [h.calls]
    exact hs.paired.trans h.paired
  ledger := by
    have hbefore := gathered_perm s.tensors n Tensor.assets
    have hafter := gathered_perm s'.tensors n Tensor.assets
    rw [h.others] at hafter
    refine List.perm_iff_count.mpr fun a => ?_
    have hold := hs.ledger.count_eq a
    have hturn := h.ledger.count_eq a
    replace hbefore := hbefore.count_eq a
    replace hafter := hafter.count_eq a
    rw [h.calls, Call.created_append, Call.released_append]
    simp only [held, holdings, List.count_append] at *
    omega
  issued a ha := by
    obtain ⟨ms, hp⟩ := h.passage
    rw [h.calls, Call.created_append, List.mem_append] at ha
    rcases ha with ha | ha
    · exact Nat.le_trans (hs.issued a ha) hp.issued_le
    · exact (hp.fresh a ha).2
  distinct := by
    obtain ⟨ms, hp⟩ := h.passage
    rw [h.calls, Call.created_append, List.map_append]
    refine List.Nodup.append hs.distinct hp.distinct ?_
    -- a new handle is numbered later than all that were given out
    intro i hi hi'
    obtain ⟨a, ha, rfl⟩ := List.mem_map.mp hi
    obtain ⟨b, hb, heq⟩ := List.mem_map.mp hi'
    have hlt := Nat.lt_of_le_of_lt (hs.issued a ha) (hp.fresh b hb).1
    rw [heq] at hlt
    exact Nat.lt_irrefl _ hlt

/-! ## Every action -/

section Actions

variable {s : Bench} {n : Nat} {t : Tensor}

theorem stretch_apply {f : Tensor → Gateway → Tensor × Gateway} {cs : List Call}
    {ms : List MetricEvent} (ht : s.tensors.get? n = some t)
    (hp : Passage s.entry (f t s.entry).2 cs ms)
    (hh : Handled s.entry (f t s.entry).2 t.pairs (f t s.entry).1.pairs)
    (hl : (Call.created cs ++ t.assets).Perm (Call.released cs ++ (f t s.entry).1.assets)) :
    Stretch s (s.apply n f) n := by
  have hself := apply_tensor ht f
  have hgateway := apply_gateway ht f
  have hcalls : (s.apply n f).gateway.calls = cs := by rw [hgateway]; exact hp.calls
  refine ⟨?_, ?_, ?_, ?_, ?_⟩
  · rw [apply_some ht]
    simp [Bench.calls, Function.comp_def]
  · rw [apply_some ht]
    exact Table.erase_modify_self ..
  · rw [hgateway, pairsOf, pairsOf, ht, hself]
    exact hh
  · rw [hcalls, holdings_some ht, holdings_some hself]
    exact hl
  · rw [hcalls, hgateway]
    exact ⟨ms, hp⟩

theorem stretch_keep {f : Tensor → Gateway → Gateway} (ht : s.tensors.get? n = some t)
    (hx : ∃ cs, Exchange s.entry (f t s.entry) cs [] [] [])
    (hh : Handled s.entry (f t s.entry) t.pairs t.pairs) :
    Stretch s (s.apply n fun t g => (t, f t g)) n := by
  obtain ⟨cs, hx⟩ := hx
  obtain ⟨ms, hp⟩ := hx.passage
  have hl := hx.ledger
  rw [List.append_nil, List.append_nil] at hl
  exact stretch_apply (f := fun t g => (t, f t g)) ht hp hh (hl.append_right _)

theorem stretch_destroy (hs : Orderly s) (ht : s.tensors.get? n = some t) :
    Stretch s (s.apply n Tensor.destroy) n := by
  obtain ⟨cs, hx⟩ := t.destroy_exchange (g := s.entry) hs.numbered
  obtain ⟨ms, hp⟩ := hx.passage
  exact stretch_apply ht hp (by simpa using t.destroy_handled s.entry) (by simpa using hx.ledger)

/-- A tensor that is dropped held nothing any more. -/
theorem stretch_drop (hs : Orderly s) (ht : s.tensors.get? n = some t) :
    Stretch s (s.drop n) n := by
  have h := stretch_destroy hs ht
  have hself := apply_tensor ht Tensor.destroy
  have hgone := drop_tensor s n
  have hpairs : (s.drop n).pairsOf n = (s.apply n Tensor.destroy).pairsOf n := by
    simp [pairsOf, hgone, hself]
  have hholdings : (s.drop n).holdings n = (s.apply n Tensor.destroy).holdings n := by
    simp [holdings, hgone, hself]
  refine ⟨h.calls, ?_, hpairs ▸ h.handled, hholdings ▸ h.ledger, h.passage⟩
  refine Eq.trans ?_ h.others
  exact Table.erase_of_absent hgone

theorem stretch_build (hs : Orderly s) (plan : TensorPlan) :
    Stretch s (s.build plan) (s.built + 1) := by
  have hself := build_tensor hs plan
  have habsent := absent_next hs
  have hgateway : (s.build plan).gateway = (plan.build s.entry).2 := rfl
  have htensors := tensors_build s plan
  have hcalls : (s.build plan).calls = s.calls ++ (s.build plan).gateway.calls := by
    simp [Bench.calls, Bench.build, Function.comp_def]
  cases hb : plan.build s.entry with
  | mk r g =>
  rw [hb] at hself hgateway htensors
  have hhandled := TensorPlan.build_handled hb
  obtain ⟨cs, hx⟩ := TensorPlan.build_exchange (g := s.entry) hs.numbered hb
  refine ⟨hcalls, ?_, ?_, ?_, ?_⟩
  · rw [htensors, Table.erase_of_absent habsent]
    cases r with
    | error e => exact Table.erase_of_absent habsent
    | ok t => exact Table.erase_insert t habsent
  · rw [pairsOf, pairsOf, habsent, hself, hgateway]
    exact hhandled
  · rw [holdings, holdings, habsent, hself, hgateway]
    cases r with
    | error e => rw [Exchange.calls_entry hx]; exact hx.ledger
    | ok t => rw [Exchange.calls_entry hx.1]; exact hx.1.ledger
  · rw [hgateway]
    cases r with
    | error e => rw [Exchange.calls_entry hx]; exact hx.passage
    | ok t => rw [Exchange.calls_entry hx.1]; exact hx.1.passage

end Actions

/-- An action goes past the tensors, or finds no tensor, or is a stretch for one tensor. -/
theorem stretch_of_step {s : Bench} (hs : Orderly s) (a : Action) :
    (∃ op, a = .outside op) ∨ s.step a = s ∨ ∃ n, Stretch s (s.step a) n := by
  have own (n : Nat) (f : Tensor → Gateway → Tensor × Gateway)
      (h : ∀ t, s.tensors.get? n = some t → Stretch s (s.apply n f) n) :
      s.apply n f = s ∨ ∃ n', Stretch s (s.apply n f) n' := by
    cases ht : s.tensors.get? n with
    | none => exact .inl (apply_none ht f)
    | some t => exact .inr ⟨n, h t ht⟩
  have write (n : Nat) (f : Tensor → Device → Device)
      (h : ∀ t, ∃ cs, Exchange s.entry { s.entry with device := f t s.entry.device } cs [] [] []) :
      s.rewrite n f = s ∨ ∃ n', Stretch s (s.rewrite n f) n' :=
    own n (fun t g => (t, { g with device := f t g.device })) fun t ht =>
      stretch_keep (f := fun t g => { g with device := f t g.device }) ht (h t) (.of_silent rfl _)
  cases a with
  | build plan => exact .inr (.inr ⟨_, stretch_build hs plan⟩)
  | rebuild n data size elementSize =>
    refine .inr (own n (fun t g => (t.rebuild g data size elementSize).2) fun t ht => ?_)
    obtain ⟨cs, ms, hp, hl⟩ := t.rebuild_ledger (g := s.entry) hs.numbered data size elementSize
    exact stretch_apply (f := fun t g => (t.rebuild g data size elementSize).2) ht hp
      (t.rebuild_handled s.entry data size elementSize) hl
  | destroy n => exact .inr (own n Tensor.destroy fun t ht => stretch_destroy hs ht)
  | drop n =>
    cases ht : s.tensors.get? n with
    | none => exact .inr (.inl (drop_none ht))
    | some t => exact .inr (.inr ⟨n, stretch_drop hs ht⟩)
  | overwrite n dtype xs => exact .inr (write n _ fun t => ⟨[], write_exchange overwrite_ok⟩)
  | overwriteBytes n data => exact .inr (write n _ fun t => ⟨[], write_exchange overwriteBytes_ok⟩)
  | poke n chunk => exact .inr (write n _ fun t => ⟨[], poke_exchange t chunk s.entry⟩)
  | record n traced commandBuffer recording =>
    refine .inr (own n
      (fun t g => (t, s.performRecording traced commandBuffer t g recording)) fun t ht => ?_)
    refine stretch_keep (f := fun t g => s.performRecording traced commandBuffer t g recording) ht
      (s.performRecording_exchange traced commandBuffer t s.entry recording) ?_
    rw [performRecording_eq]
    cases s.recordingFor recording with
    | none => exact .refl s.entry _
    | some r => exact t.record_handled s.entry traced commandBuffer r
  | outside op => exact .inl ⟨op, rfl⟩

namespace Tidy

variable {s : Bench}

theorem ofTypes (types : List Mask) (faults : Faults) : Tidy (Bench.ofTypes types faults) where
  paired :=
    .of_unbound (by simp [Bench.calls, Bench.ofTypes]) (by simp [Bench.calls, Bench.ofTypes]) []
  ledger := .refl _
  issued a ha := by cases ha
  distinct := List.nodup_nil

theorem step (h : Tidy s) (hs : Orderly s) (a : Action) : Tidy (s.step a) := by
  rcases stretch_of_step hs a with ⟨op, rfl⟩ | he | ⟨n, hn⟩
  · exact ⟨h.paired, h.ledger, fun a ha => Nat.le_trans (h.issued a ha) (issued_step hs _),
      h.distinct⟩
  · rw [he]
    exact h
  · exact h.stretch hn

theorem run (h : Tidy s) (hs : Orderly s) (actions : List Action) : Tidy (s.run actions) := by
  induction actions generalizing s with
  | nil => exact h
  | cons a actions ih => exact ih (h.step hs a) (hs.step a)

/-- What is released was released once, and is not held. -/
theorem released_held_nodup (h : Tidy s) :
    ((Call.released s.calls ++ s.held).map Asset.handle).Nodup :=
  (h.ledger.map Asset.handle).nodup_iff.mp h.distinct

/-- A pair whose bind was accepted and of which a half is released is released buffer first. -/
theorem bufferFirst (h : Tidy s) {b m : Handle} {o : Nat} (hbind : .bind b m o (.ok ()) ∈ s.calls)
    (hgone : .buffer b ∈ Call.released s.calls ∨ .memory m ∈ Call.released s.calls) :
    Call.BufferFirst s.calls b m := by
  refine (h.paired.accepted b m o hbind).resolve_left fun hheld => ?_
  -- a pair that is held has not been released, neither half of it
  obtain ⟨e, he, hp⟩ := List.mem_flatMap.mp hheld
  obtain ⟨hb, hm⟩ := Tensor.mem_pairs hp
  have hdisjoint := (List.nodup_append'.mp (List.Nodup.of_map _ h.released_held_nodup)).2.2
  rcases hgone with hr | hr
  · exact hdisjoint hr (List.mem_flatMap_of_mem he hb)
  · exact hdisjoint hr (List.mem_flatMap_of_mem he hm)

end Tidy

/-! ## Teardown -/

/-- In the calls of a whole run nothing is released twice; memory is made for a buffer that a bind
joins it to; and of a buffer and a memory so joined, both are released if their bind was refused or
if either is. Once released, the buffer went first if and only if the bind was accepted, and the
memory if and only if it was refused. -/
theorem teardown (types : List Mask) (faults : Faults) (actions : List Action) :
    ((Call.released ((ofTypes types faults).run actions).calls).map Asset.handle).Nodup ∧
    (∀ m, .memory m ∈ Call.created ((ofTypes types faults).run actions).calls →
      ∃ b r, Call.bind b m 0 r ∈ ((ofTypes types faults).run actions).calls) ∧
    ∀ b m o r, Call.bind b m o r ∈ ((ofTypes types faults).run actions).calls →
      (.buffer b ∈ Call.created ((ofTypes types faults).run actions).calls ∧
        .memory m ∈ Call.created ((ofTypes types faults).run actions).calls) ∧
      (r ≠ .ok () ∨ .buffer b ∈ Call.released ((ofTypes types faults).run actions).calls ∨
          .memory m ∈ Call.released ((ofTypes types faults).run actions).calls →
        (Call.BufferFirst ((ofTypes types faults).run actions).calls b m ↔ r = .ok ()) ∧
        (Call.MemoryFirst ((ofTypes types faults).run actions).calls b m ↔ r ≠ .ok ())) := by
  have h := Tidy.run (.ofTypes types faults) (.ofTypes types faults) actions
  generalize (ofTypes types faults).run actions = s at h
  have hn := h.released_held_nodup
  rw [List.map_append] at hn
  have hreleased := (List.nodup_append'.mp hn).1
  refine ⟨hreleased, h.paired.named, ?_⟩
  intro b m o r hbind
  refine ⟨h.paired.made b m o r hbind, fun hgone => ?_⟩
  have hdistinct := List.Nodup.of_map _ hreleased
  cases r with
  | error e =>
    have hfirst := h.paired.refused b m o e hbind
    have hnot : ¬Call.BufferFirst s.calls b m := fun hb =>
      not_sublist_swap hdistinct hb.released hfirst.released
    simp [hfirst, hnot]
  | ok u =>
    have hfirst := h.bufferFirst hbind (hgone.resolve_left fun hne => hne rfl)
    have hnot : ¬Call.MemoryFirst s.calls b m :=
      fun hm => not_sublist_swap hdistinct hfirst.released hm.released
    simp [hfirst, hnot]

/-- A build whose first bind is refused. -/
def refusedRun : Bench :=
  (ofTypes [Placement.hostCoherent] refusedBind).run
    [.build
        { dtype := .float
          kind := .host
          elements := some 1
          elementSize := some 4
          data := some (.ofBytes [0, 0, 128, 63]) }]

/-- The memory is freed while the buffer made with it is still there. -/
theorem teardown_refusedRun :
    .bind 1 2 0 (.error .outOfDeviceMemory) ∈ refusedRun.calls ∧
      Call.created refusedRun.calls = [.buffer 1, .memory 2] ∧
      Call.released refusedRun.calls = [.memory 2, .buffer 1] ∧
      ¬Call.BufferFirst refusedRun.calls 1 2 := by
  have hreleased : Call.released refusedRun.calls = [.memory 2, .buffer 1] := by decide +kernel
  refine ⟨List.mem_of_getElem? (i := 3) rfl, by decide +kernel, hreleased, fun h => ?_⟩
  have hsub := h.released
  rw [hreleased] at hsub
  exact absurd hsub (by decide)

end Bench
end TensorMemory
