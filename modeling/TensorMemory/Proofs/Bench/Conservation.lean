import TensorMemory.Proofs.Bench.Turns

/-!
Conservation of handles. What is live on the device is at every moment what the code around the
tensors created and has not released, and what the tensors own. An action is the turn of one tensor
or goes past the tensors; both keep the books (`Accounted.step`), and the balance is read off them
(`conservation`).
-/

namespace TensorMemory.Bench

/-- Operations past the tensors keep the books as long as they release nothing of the tensors. -/
theorem Accounted.bypass {s : Bench} (hs : Accounted s) {op : Device.Operation}
    (hf : ∀ a ∈ op.released, a ∉ Call.created s.calls) : Accounted (s.bypass op) := by
  have hframe := Device.frame_perform s.gateway.device op
  have hkept {a : Asset} (ha : a ∈ s.gateway.device.assets) (hr : a ∉ op.released) :
      a ∈ (s.gateway.device.perform op).assets :=
    (hframe.assets a (hs.numbered.le_issued ha).2 hr).mpr ha
  have hnew {a : Asset} : a ∈ op.created s.gateway.device ↔
      a ∈ (s.gateway.device.perform op).assets ∧ a ∉ s.gateway.device.assets := by
    simp [Device.Operation.created]
  have hout {a : Asset} : a ∈ (s.bypass op).outside ↔
      a ∈ s.outside ∧ a ∉ op.released ∨ a ∈ op.created s.gateway.device := by
    simp [Bench.bypass]
  have hholdings {n : Nat} {a : Asset} (ha : a ∈ s.holdings n) : a ∉ op.released := fun hr =>
    hf a hr (mem_created_calls.mpr ⟨n, hs.created_of_holdings ha⟩)
  constructor
  · exact hs.numbered.perform op
  · intro a
    rw [hout, hnew]
    show a ∈ (s.gateway.device.perform op).assets ↔ _ ∨ ∃ n, a ∈ s.holdings n
    constructor
    · intro ha
      by_cases hd : a ∈ s.gateway.device.assets
      · rcases (hs.live a).mp hd with ho | hh
        · exact .inl (.inl ⟨ho, fun hr => Device.released_notMem hs.numbered hr ha⟩)
        · exact .inr hh
      · exact .inl (.inr ⟨ha, hd⟩)
    · rintro ((⟨ho, hr⟩ | ⟨ha, -⟩) | ⟨n, hn⟩)
      · exact hkept ((hs.live a).mpr (.inl ho)) hr
      · exact ha
      · exact hkept (hs.live_of_holdings hn) (hholdings hn)
  · refine List.Nodup.append (hs.outsideNodup.filter _)
      ((Device.nodup_assets _).filter _) ?_
    intro a ho hc
    have hl := (hs.live a).mpr (.inl (List.mem_of_mem_filter ho))
    exact (hnew.mp hc).2 hl
  · intro a ha hc
    rcases hout.mp ha with ⟨ho, -⟩ | hn
    · exact hs.foreign a ho hc
    · obtain ⟨hin, hn⟩ := hnew.mp hn
      by_cases hr : a ∈ op.released
      · exact hf a hr hc
      · exact hn ((hframe.assets a (hs.issued a hc) hr).mp hin)
  · exact hs.numbers
  · exact hs.past
  · exact hs.ledger
  · exact fun a ha => Nat.le_trans (hs.issued a ha) hframe.issued
  · exact hs.distinct
  · intro n a ha
    obtain ⟨hn, hi, hb⟩ := hs.loans ha
    exact ⟨hn, Nat.le_trans hi hframe.issued, hb⟩
  · exact hs.borrowed

theorem Accounted.step {s : Bench} (hs : Accounted s) {a : Action} (hf : Fair s a) :
    Accounted (s.step a) := by
  rcases turn_of_step hs hf with ⟨op, rfl⟩ | he | ⟨n, taken, ht⟩
  · exact hs.bypass hf
  · rw [he]
    exact hs
  · exact hs.turn ht

theorem accounted_of_reach {types : List Mask} {faults : Faults} {s : Bench}
    (h : Reach Fair (.ofTypes types faults) s) : Accounted s :=
  h.invariant (.ofTypes types faults) fun _ _ hs hf => hs.step hf

/-! ## The balance -/

/-- What the tensors own, all together. -/
def held (s : Bench) : List Asset := s.tensors.entries.flatMap fun e => e.2.assets

theorem mem_held {s : Bench} {a : Asset} : a ∈ s.held ↔ ∃ n, a ∈ s.holdings n := by
  simp only [held, List.mem_flatMap, Prod.exists, ← Table.get?_eq_some_iff, holdings]
  constructor
  · rintro ⟨n, t, ht, ha⟩
    exact ⟨n, by rw [ht]; exact ha⟩
  · rintro ⟨n, ha⟩
    cases ht : s.tensors.get? n with
    | none => rw [ht] at ha; cases ha
    | some t => exact ⟨n, t, ht, by rw [ht] at ha; exact ha⟩

theorem Accounted.held_nodup {s : Bench} (hs : Accounted s) : s.held.Nodup := by
  have hmem {e : Nat × Tensor} (he : e ∈ s.tensors.entries) : e.2.assets = s.holdings e.1 :=
    (holdings_some (Table.get?_eq_some_iff.mpr he)).symm
  refine List.nodup_flatMap.mpr ⟨fun e he => hmem he ▸ hs.holdings_nodup e.1, ?_⟩
  refine (List.pairwise_map.mp s.tensors.distinct).imp_of_mem ?_
  intro e e' he he' hne a ha ha'
  have hn : a ∈ s.holdings e.1 := by rw [← hmem he]; exact ha
  have hn' : a ∈ s.holdings e'.1 := by rw [← hmem he']; exact ha'
  exact hne (hs.holdings_unique hn hn')

/-- What is live is what was created past the tensors and not released, and what the tensors own,
with no handle in two places; and a tensor releases nothing that it has on loan. -/
theorem conservation {types : List Mask} {faults : Faults} {s : Bench}
    (h : Reach Fair (.ofTypes types faults) s) :
    s.gateway.device.assets.Perm (s.outside ++ s.held) ∧
    ((s.outside ++ s.held).map Asset.handle).Nodup ∧
    (∀ n t, s.tensors.get? n = some t → ∀ a ∈ t.loans, (n, a) ∈ s.lent) ∧
    ∀ n a c b, (n, a) ∈ s.lent → (n, c) ∈ s.history → c.released? = some b →
      b.handle ≠ a.handle := by
  have hs := accounted_of_reach h
  have hlive (a : Asset) : a ∈ s.gateway.device.assets ↔ a ∈ s.outside ++ s.held := by
    rw [hs.live, List.mem_append, mem_held]
  have hnodup : (s.outside ++ s.held).Nodup := by
    refine List.Nodup.append hs.outsideNodup hs.held_nodup ?_
    intro a ho hh
    obtain ⟨n, hn⟩ := mem_held.mp hh
    exact hs.outside_notMem ho hn
  refine ⟨?_, ?_, fun n t ht => hs.borrowed ht, ?_⟩
  · exact (List.perm_ext_iff_of_nodup (Device.nodup_assets _) hnodup).mpr hlive
  · refine hnodup.map_on ?_
    intro a ha b hb hab
    exact hs.numbered.handle_injective ((hlive a).mpr ha) ((hlive b).mpr hb) hab
  · intro n a c b ha hc hb
    have hr : b ∈ Call.released (s.callsOf n) :=
      List.mem_filterMap.mpr ⟨c, mem_callsOf.mpr hc, hb⟩
    exact Nat.ne_of_gt ((hs.loans ha).2.2 b (hs.created_of_released hr))

/-- The first bind that tensor code asks for is refused. -/
def refusedBind : Faults := { bind := fun n => if n = 0 then some .outOfDeviceMemory else none }

/-- Two builds borrow one staging buffer; the first of them fails. -/
def lendingRun : Bench :=
  (((Bench.ofTypes [MemoryFlags.deviceLocal, Placement.hostCoherent] refusedBind).step
    (.outside (.createBound 16 Placement.transfer Placement.hostCoherent))).step
    (.build stagedPlan)).step (.build stagedPlan)

theorem conservation_lendingRun :
    lendingRun.outside = [.buffer 1, .memory 2] ∧ lendingRun.held = [.buffer 5, .memory 6] ∧
      lendingRun.gateway.device.assets.Perm (lendingRun.outside ++ lendingRun.held) := by
  have h : Reach Fair (.ofTypes [MemoryFlags.deviceLocal, Placement.hostCoherent] refusedBind)
      lendingRun := by
    refine .step _ (.step _ (.step _ .refl ?_) ?_) ?_
    · exact fun a ha => by cases ha
    · show ∀ a ∈ stagedPlan.loans, a.handle ≤ _
      decide +kernel
    · show ∀ a ∈ stagedPlan.loans, a.handle ≤ _
      decide +kernel
  exact ⟨by decide +kernel, by decide +kernel, (conservation h).1⟩

end TensorMemory.Bench
