import TensorMemory.Proofs.Bench.Basic

/-!
The books of a bench. They are kept per tensor: what its calls created is what they released and
what it still owns (`Accounted.ledger`). When tensor code has run for one tensor, with the rest as
it was (`Turn`), the books are still in order (`Accounted.turn`).
-/

namespace TensorMemory.Bench

open Gateway (Exchange)

/-! ## Looking up calls -/

theorem mem_callsOf {s : Bench} {n : Nat} {c : Call} : c ∈ s.callsOf n ↔ (n, c) ∈ s.history := by
  simp [callsOf]

theorem created_callsOf {s : Bench} {n : Nat} {a : Asset} (h : a ∈ Call.created (s.callsOf n)) :
    ∃ c, (n, c) ∈ s.history ∧ c.created? = some a := by
  obtain ⟨c, hc, ha⟩ := List.mem_filterMap.mp h
  exact ⟨c, mem_callsOf.mp hc, ha⟩

theorem mem_created_calls {s : Bench} {a : Asset} :
    a ∈ Call.created s.calls ↔ ∃ n, a ∈ Call.created (s.callsOf n) := by
  simp only [Call.created, calls, List.mem_filterMap, mem_callsOf, List.mem_map, Prod.exists]
  constructor
  · rintro ⟨c, ⟨n, c', hm, rfl⟩, ha⟩
    exact ⟨n, c', hm, ha⟩
  · rintro ⟨n, c, hm, ha⟩
    exact ⟨c, ⟨n, c, hm, rfl⟩, ha⟩

/-- Where no value comes out twice, it came from one place only. -/
theorem eq_of_nodup_filterMap {α β : Type} {f : α → Option β} {xs : List α} {x y : α} {b : β}
    (h : (xs.filterMap f).Nodup) (hx : x ∈ xs) (hy : y ∈ xs) (hfx : f x = some b)
    (hfy : f y = some b) : x = y := by
  by_contra hne
  have hp := List.pairwise_filterMap.mp h
  have hsymm : Std.Symm fun x y : α => ∀ b, f x = some b → ∀ c, f y = some c → b ≠ c :=
    ⟨fun _ _ hxy b hb c hc => Ne.symm (hxy c hc b hb)⟩
  exact hp.forall hx hy hne b hfx b hfy rfl

theorem holdings_some {s : Bench} {n : Nat} {t : Tensor} (ht : s.tensors.get? n = some t) :
    s.holdings n = t.assets := by simp [holdings, ht]

/-! ## The books -/

structure Accounted (s : Bench) : Prop where
  numbered : s.gateway.device.Numbered
  live : ∀ a, a ∈ s.gateway.device.assets ↔ a ∈ s.outside ∨ ∃ n, a ∈ s.holdings n
  outsideNodup : s.outside.Nodup
  foreign : ∀ a ∈ s.outside, a ∉ Call.created s.calls
  numbers : ∀ {n t}, s.tensors.get? n = some t → n ≤ s.built
  past : ∀ e ∈ s.history, e.1 ≤ s.built
  ledger : ∀ n, (Call.created (s.callsOf n)).Perm (Call.released (s.callsOf n) ++ s.holdings n)
  issued : ∀ a ∈ Call.created s.calls, a.handle ≤ s.gateway.device.issued
  distinct : ((Call.created s.calls).map Asset.handle).Nodup
  /-- What a tensor has on loan is older than all that its calls created. -/
  loans : ∀ {n a}, (n, a) ∈ s.lent → n ≤ s.built ∧ a.handle ≤ s.gateway.device.issued ∧
    ∀ b ∈ Call.created (s.callsOf n), a.handle < b.handle
  borrowed : ∀ {n t}, s.tensors.get? n = some t → ∀ a ∈ t.loans, (n, a) ∈ s.lent

namespace Accounted

variable {s : Bench}

theorem created_of_holdings (h : Accounted s) {n : Nat} {a : Asset} (ha : a ∈ s.holdings n) :
    a ∈ Call.created (s.callsOf n) := (h.ledger n).mem_iff.mpr (List.mem_append_right _ ha)

theorem created_of_released (h : Accounted s) {n : Nat} {a : Asset}
    (ha : a ∈ Call.released (s.callsOf n)) : a ∈ Call.created (s.callsOf n) :=
  (h.ledger n).mem_iff.mpr (List.mem_append_left _ ha)

/-- No asset was created for two tensors. -/
theorem created_unique (h : Accounted s) {n m : Nat} {a : Asset}
    (hn : a ∈ Call.created (s.callsOf n)) (hm : a ∈ Call.created (s.callsOf m)) : n = m := by
  obtain ⟨c, hc, hca⟩ := created_callsOf hn
  obtain ⟨c', hc', hca'⟩ := created_callsOf hm
  have hd : (s.history.filterMap fun e => e.2.created?).Nodup := by
    have hd := List.Nodup.of_map _ h.distinct
    rw [Call.created, calls, List.filterMap_map] at hd
    exact hd
  exact congrArg Prod.fst (eq_of_nodup_filterMap hd hc hc' hca hca')

/-- Handles of created assets are told apart by their numbers. -/
theorem created_handle_injective (h : Accounted s) {a b : Asset} (ha : a ∈ Call.created s.calls)
    (hb : b ∈ Call.created s.calls) (hab : a.handle = b.handle) : a = b :=
  List.inj_on_of_nodup_map h.distinct ha hb hab

theorem holdings_nodup (h : Accounted s) (n : Nat) : (s.holdings n).Nodup := by
  have hsub : (Call.created (s.callsOf n)).Nodup := by
    refine (List.Nodup.of_map _ h.distinct).sublist ?_
    exact (List.filter_sublist.map _).filterMap _
  have hn := (h.ledger n).nodup_iff.mp hsub
  exact (List.nodup_append'.mp hn).2.1

theorem holdings_unique (h : Accounted s) {n m : Nat} {a : Asset} (hn : a ∈ s.holdings n)
    (hm : a ∈ s.holdings m) : n = m :=
  h.created_unique (h.created_of_holdings hn) (h.created_of_holdings hm)

theorem outside_notMem (h : Accounted s) {n : Nat} {a : Asset} (ha : a ∈ s.outside) :
    a ∉ s.holdings n := fun hn =>
  h.foreign a ha (mem_created_calls.mpr ⟨n, h.created_of_holdings hn⟩)

theorem live_of_holdings (h : Accounted s) {n : Nat} {a : Asset} (ha : a ∈ s.holdings n) :
    a ∈ s.gateway.device.assets := (h.live a).mpr (.inr ⟨n, ha⟩)

theorem live_of_assets (h : Accounted s) {n : Nat} {t : Tensor}
    (ht : s.tensors.get? n = some t) : ∀ a ∈ t.assets, a ∈ s.gateway.device.assets := by
  intro a ha
  rw [← holdings_some ht] at ha
  exact h.live_of_holdings ha

theorem callsOf_new (h : Accounted s) {n : Nat} (hn : s.built < n) : s.callsOf n = [] := by
  apply List.eq_nil_iff_forall_not_mem.mpr
  intro c hc
  exact absurd (h.past _ (mem_callsOf.mp hc)) (Nat.not_le.mpr hn)

theorem holdings_new (h : Accounted s) {n : Nat} (hn : s.built < n) : s.holdings n = [] := by
  cases ht : s.tensors.get? n with
  | none => simp [holdings, ht]
  | some t => exact absurd (h.numbers ht) (Nat.not_le.mpr hn)

theorem ofTypes (types : List Mask) (faults : Faults) : Accounted (Bench.ofTypes types faults) where
  numbered := .ofTypes types
  live a := by
    constructor
    · intro ha
      cases a <;> cases ha
    · rintro (ha | ⟨n, ha⟩) <;> cases ha
  outsideNodup := List.nodup_nil
  foreign a ha := by cases ha
  numbers h := by cases h
  past e he := by cases he
  ledger n := .refl _
  issued a ha := by cases ha
  distinct := List.nodup_nil
  loans h := by cases h
  borrowed h := by cases h

end Accounted

/-! ## Turns -/

/-- Tensor code ran for one tensor, and all the rest is as it was. -/
structure Turn (s s' : Bench) (n : Nat) (taken : List Asset) : Prop where
  exchange : Exchange s.entry s'.gateway s'.gateway.calls taken (s.holdings n) (s'.holdings n)
  history : s'.history = s.history ++ s'.gateway.calls.map fun c => (n, c)
  outside : s'.outside = s.outside
  others : ∀ m, m ≠ n → s'.tensors.get? m = s.tensors.get? m
  builtLe : s.built ≤ s'.built
  numberLe : n ≤ s'.built
  lent : s.lent ⊆ s'.lent
  /-- Only a tensor that is being built can be lent anything. -/
  newlyLent : ∀ {m a}, (m, a) ∈ s'.lent →
    (m, a) ∈ s.lent ∨ m = n ∧ s.built < n ∧ a.handle ≤ s.gateway.device.issued
  borrowed : ∀ t, s'.tensors.get? n = some t → ∀ a ∈ t.loans, (n, a) ∈ s'.lent

namespace Turn

variable {s s' : Bench} {n : Nat} {taken : List Asset}

theorem calls_eq (h : Turn s s' n taken) : s'.calls = s.calls ++ s'.gateway.calls := by
  rw [calls, h.history, List.map_append, List.map_map, calls]
  exact congrArg _ (List.map_id _)

theorem callsOf_self (h : Turn s s' n taken) :
    s'.callsOf n = s.callsOf n ++ s'.gateway.calls := by
  rw [callsOf, h.history, List.filter_append, List.map_append, callsOf]
  congr 1
  rw [List.filter_map, List.map_map]
  simp [Function.comp_def]

theorem callsOf_other (h : Turn s s' n taken) {m : Nat} (hm : m ≠ n) :
    s'.callsOf m = s.callsOf m := by
  rw [callsOf, h.history, List.filter_append, List.map_append, callsOf]
  simp [List.filter_map, Function.comp_def, Ne.symm hm]

theorem holdings_other (h : Turn s s' n taken) {m : Nat} (hm : m ≠ n) :
    s'.holdings m = s.holdings m := by
  rw [holdings, h.others m hm, holdings]

/-- What the turn created is later than all there was. -/
theorem later (h : Turn s s' n taken) {a : Asset} (ha : a ∈ Call.created s'.gateway.calls) :
    s.gateway.device.issued < a.handle ∧ a.handle ≤ s'.gateway.device.issued := by
  obtain ⟨ms, hp⟩ := h.exchange.passage
  exact hp.fresh a ha

theorem issued_le (h : Turn s s' n taken) :
    s.gateway.device.issued ≤ s'.gateway.device.issued := h.exchange.frame.issued

end Turn

namespace Accounted

variable {s s' : Bench} {n : Nat} {taken : List Asset}

theorem live_turn (hs : Accounted s) (h : Turn s s' n taken) (a : Asset) :
    a ∈ s'.gateway.device.assets ↔ a ∈ s'.outside ∨ ∃ m, a ∈ s'.holdings m := by
  have hl : a ∈ s.entry.device.assets ↔ _ := hs.live a
  rw [h.exchange.live, hl, h.outside]
  constructor
  · rintro (⟨ho | ⟨m, hm⟩, hn⟩ | ha)
    · exact .inl ho
    · have hmn : m ≠ n := by
        rintro rfl
        exact hn hm
      exact .inr ⟨m, by rwa [h.holdings_other hmn]⟩
    · exact .inr ⟨n, ha⟩
  · rintro (ho | ⟨m, hm⟩)
    · exact .inl ⟨.inl ho, hs.outside_notMem ho⟩
    · by_cases hmn : m = n
      · exact .inr (hmn ▸ hm)
      · rw [h.holdings_other hmn] at hm
        exact .inl ⟨.inr ⟨m, hm⟩, fun hn => hmn (hs.holdings_unique hm hn)⟩

theorem ledger_turn (hs : Accounted s) (h : Turn s s' n taken) (m : Nat) :
    (Call.created (s'.callsOf m)).Perm (Call.released (s'.callsOf m) ++ s'.holdings m) := by
  by_cases hmn : m = n
  · subst hmn
    rw [h.callsOf_self, Call.created_append, Call.released_append]
    calc Call.created (s.callsOf m) ++ Call.created s'.gateway.calls
        _ |>.Perm (Call.released (s.callsOf m) ++ s.holdings m ++ Call.created s'.gateway.calls) :=
          (hs.ledger m).append_right _
        _ = Call.released (s.callsOf m) ++ (s.holdings m ++ Call.created s'.gateway.calls) := by
          rw [List.append_assoc]
        _ |>.Perm
            (Call.released (s.callsOf m) ++ (Call.released s'.gateway.calls ++ s'.holdings m)) :=
          .append_left _ (List.perm_append_comm.trans h.exchange.ledger)
        _ = Call.released (s.callsOf m) ++ Call.released s'.gateway.calls ++ s'.holdings m := by
          rw [List.append_assoc]
  · rw [h.callsOf_other hmn, h.holdings_other hmn]
    exact hs.ledger m

theorem loans_turn (hs : Accounted s) (h : Turn s s' n taken) {m : Nat} {a : Asset}
    (ha : (m, a) ∈ s'.lent) : m ≤ s'.built ∧ a.handle ≤ s'.gateway.device.issued ∧
      ∀ b ∈ Call.created (s'.callsOf m), a.handle < b.handle := by
  have hold : a.handle ≤ s.gateway.device.issued ∧
      ∀ b ∈ Call.created (s.callsOf m), a.handle < b.handle := by
    rcases h.newlyLent ha with ha | ⟨rfl, hb, ha⟩
    · exact (hs.loans ha).2
    · rw [hs.callsOf_new hb]
      exact ⟨ha, fun b hb => by cases hb⟩
  refine ⟨?_, Nat.le_trans hold.1 h.issued_le, ?_⟩
  · rcases h.newlyLent ha with ha | ⟨rfl, -, -⟩
    · exact Nat.le_trans (hs.loans ha).1 h.builtLe
    · exact h.numberLe
  · intro b hb
    by_cases hmn : m = n
    · subst hmn
      rw [h.callsOf_self, Call.created_append, List.mem_append] at hb
      rcases hb with hb | hb
      · exact hold.2 b hb
      · exact Nat.lt_of_le_of_lt hold.1 (h.later hb).1
    · rw [h.callsOf_other hmn] at hb
      exact hold.2 b hb

/-- A turn keeps the books. -/
theorem turn (hs : Accounted s) (h : Turn s s' n taken) : Accounted s' where
  numbered := h.exchange.numbered hs.numbered
  live := hs.live_turn h
  outsideNodup := h.outside ▸ hs.outsideNodup
  foreign a ha := by
    rw [h.outside] at ha
    rw [h.calls_eq, Call.created_append, List.mem_append, not_or]
    refine ⟨hs.foreign a ha, fun hc => ?_⟩
    have hle := (hs.numbered.le_issued ((hs.live a).mpr (.inl ha))).2
    exact absurd hle (Nat.not_le.mpr (h.later hc).1)
  numbers {m t} ht := by
    by_cases hmn : m = n
    · exact hmn ▸ h.numberLe
    · rw [h.others m hmn] at ht
      exact Nat.le_trans (hs.numbers ht) h.builtLe
  past e he := by
    rw [h.history, List.mem_append] at he
    rcases he with he | he
    · exact Nat.le_trans (hs.past e he) h.builtLe
    · obtain ⟨c, -, rfl⟩ := List.mem_map.mp he
      exact h.numberLe
  ledger := hs.ledger_turn h
  issued a ha := by
    rw [h.calls_eq, Call.created_append, List.mem_append] at ha
    rcases ha with ha | ha
    · exact Nat.le_trans (hs.issued a ha) h.issued_le
    · exact (h.later ha).2
  distinct := by
    obtain ⟨ms, hp⟩ := h.exchange.passage
    rw [h.calls_eq, Call.created_append, List.map_append]
    refine List.Nodup.append hs.distinct hp.distinct ?_
    intro i hi hi'
    obtain ⟨a, ha, rfl⟩ := List.mem_map.mp hi
    obtain ⟨b, hb, heq⟩ := List.mem_map.mp hi'
    have hlt := Nat.lt_of_le_of_lt (hs.issued a ha) (h.later hb).1
    rw [heq] at hlt
    exact Nat.lt_irrefl _ hlt
  loans := hs.loans_turn h
  borrowed {m t} ht := by
    by_cases hmn : m = n
    · subst hmn
      exact h.borrowed t ht
    · rw [h.others m hmn] at ht
      exact fun a ha => h.lent (hs.borrowed ht a ha)

end Accounted

end TensorMemory.Bench
