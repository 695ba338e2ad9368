import TensorMemory.Proofs.Tensor.Exclusive
import TensorMemory.Proofs.Tensor.InitialContents

/-!
What a tensor leaves behind. What it owns is released, each asset by one call; what it has on loan
stays where it is, with its bytes, and is only not mapped any more (`Relinquished`). This asks of
the tensor that it holds nothing twice (`Regular`), and nothing of the code around it: its memory
may have been freed or unmapped in the meantime.
-/

namespace TensorMemory

open Gateway (Exchange)

/-! ## Bytes -/

namespace Device

variable (d : Device) {i j : Handle}

theorem bytes?_unmap : (d.unmap j).bytes? i = d.bytes? i := by
  unfold unmap
  split
  · unfold bytes?
    rw [Table.get?_modify]
    split
    · cases d.memories.get? i <;> rfl
    · rfl
  · rfl

theorem bytes?_destroyBuffer (buffer : Handle) :
    (d.destroyBuffer buffer).bytes? i = d.bytes? i := by
  unfold destroyBuffer
  split
  · rfl
  · split <;> rfl

theorem bytes?_freeMemory (h : i ≠ j) : (d.freeMemory j).bytes? i = d.bytes? i := by
  have hv : (if d.isBoundTo j then d.violate (.freedWhileBound j) else d).bytes? i =
      d.bytes? i := by split <;> rfl
  unfold freeMemory
  split
  · rfl
  revert hv
  generalize (if d.isBoundTo j then d.violate (.freedWhileBound j) else d) = d'
  intro hv
  rw [← hv]
  dsimp only
  split
  · rw [bytes?, Table.get?_erase, if_neg h]
    rfl
  · rfl

end Device

section Bytes

variable {g : Gateway} {i : Handle}

theorem BackedBuffer.bytes?_release {b : BackedBuffer} (h : .memory i ∉ b.assets) :
    (b.release g).device.bytes? i = g.device.bytes? i := by
  have hbuffer : (if b.buffer.isOwned then g.destroyBuffer b.buffer.handle else g).device.bytes? i =
      g.device.bytes? i := by
    split
    · exact g.device.bytes?_destroyBuffer _
    · rfl
  unfold release
  dsimp only
  split
  · next ho =>
    refine (Device.bytes?_freeMemory _ ?_).trans hbuffer
    rintro rfl
    exact h (memory_mem_assets ho)
  · exact hbuffer

theorem Backing.bytes?_release {b : Backing} (h : .memory i ∉ b.assets) :
    (b.release g).device.bytes? i = g.device.bytes? i := by
  have hside {x : BackedBuffer} (hx : x ∈ b.buffers) : .memory i ∉ x.assets := fun hi =>
    h (List.mem_flatMap.mpr ⟨x, hx, hi⟩)
  have hprimary := BackedBuffer.bytes?_release (g := g) (hside (List.mem_cons_self ..))
  unfold release
  cases hs : b.staging with
  | none => exact hprimary
  | some s =>
    have hmem : s ∈ b.buffers := List.mem_cons_of_mem _ (Option.mem_toList.mpr hs)
    exact (BackedBuffer.bytes?_release (hside hmem)).trans hprimary

/-- Only the memory that a tensor owns loses its bytes. -/
theorem Tensor.bytes?_releaseHoldings {t : Tensor} (h : .memory i ∉ t.assets) :
    (t.releaseHoldings g).device.bytes? i = g.device.bytes? i := by
  unfold releaseHoldings
  cases hr : t.residence with
  | vacant | detached => rfl
  | live r =>
    rw [assets_of_live hr] at h
    dsimp only
    rw [Resources.release_eq]
    refine (Backing.bytes?_release h).trans ?_
    rcases r.unmapHost_cases t.kind g with ⟨-, hu⟩ | ⟨j, -, hu⟩
    · rw [hu]
    · rw [hu]
      exact g.device.bytes?_unmap

end Bytes

/-! ## Regular holdings -/

namespace Tensor

/-- A tensor owns nothing twice and nothing that it has on loan; its handles have been given out;
and what it unmaps is what it has mapped. -/
structure Regular (t : Tensor) (issued : Handle) : Prop where
  nodup : t.assets.Nodup
  unlent : ∀ a ∈ t.assets, a ∉ t.loans
  issued : ∀ a ∈ t.assets ++ t.loans, a.handle ≤ issued
  mapped : t.mapped = (t.mapping?.map fun p => Asset.memory p.memory).toList

variable {t : Tensor} {issued issued' : Handle}

theorem Regular.mono (h : t.Regular issued) (hi : issued ≤ issued') : t.Regular issued' :=
  { h with issued := fun a ha => Nat.le_trans (h.issued a ha) hi }

theorem Regular.of_empty (h : t.resources? = none) (issued : Handle) : t.Regular issued := by
  constructor <;> simp [assets, loans, Tensor.mapped, mapping?, h]

end Tensor

theorem Gateway.Furnished.regular {g g' : Gateway} {kind : Placement} {dtype : ElementType}
    {size : Nat} {data : Option Block} {primary staging : Option LentBuffer} {r : Resources}
    {cs : List Call} {ps qs : List BoundPair}
    (h : Furnished g g' kind dtype size data primary staging r cs ps qs) (hg : g.device.Numbered)
    (hl : ∀ a ∈ r.backing.loans, a.handle ≤ g.device.issued) :
    (⟨kind, dtype, size, .live r⟩ : Tensor).Regular g'.device.issued :=
  have hs := h.settled hg hl
  ⟨h.assets_nodup, hs.unlent, hs.issued, hs.mounted.mapped⟩

/-- What is lent to a build has to have been given out. -/
theorem TensorPlan.build_regular {plan : TensorPlan} {g g' : Gateway} {t : Tensor}
    (hg : g.device.Numbered) (hl : ∀ a ∈ plan.loans, a.handle ≤ g.device.issued)
    (h : plan.build g = (.ok t, g')) : t.Regular g'.device.issued := by
  obtain ⟨cs, n, r, ps, qs, rfl, -, -, -, hf⟩ := build_spec hg h
  exact hf.regular hg fun a ha => hl a (hf.backed.loans ha)

theorem Tensor.Regular.rebuild {t : Tensor} {g : Gateway} (h : t.Regular g.device.issued)
    (hg : g.device.Numbered) (data : Block) (size elementSize : Nat) :
    (t.rebuild g data size elementSize).2.1.Regular
      (t.rebuild g data size elementSize).2.2.device.issued := by
  rcases rebuild_spec hg t data size elementSize with
    ⟨e, -, he⟩ | ⟨g₀, cs, r, g', -, -, hx, -, he, cs', hs⟩
  · rw [he]
    exact h
  rw [he]
  cases r with
  | error e => exact .of_empty rfl _
  | ok r =>
    obtain ⟨ps, qs, hf⟩ := hs
    refine hf.regular (hx.numbered hg) fun a ha => ?_
    rw [hf.loans] at ha
    cases ha

/-! ## Giving back -/

namespace Gateway.Exchange

variable {g g₀ g' : Gateway} {cs cs' : List Call} {taken gone new : List Asset} {a : Asset}

theorem notMem_created (h : Exchange g g' cs taken gone new) (ha : a.handle ≤ g.device.issued) :
    a ∉ Call.created cs := by
  obtain ⟨ms, hp⟩ := h.passage
  exact fun hm => absurd ha (Nat.not_le.mpr (hp.fresh a hm).1)

/-- Where nothing is given back, only what the calls created is released or taken in. -/
theorem notMem_released (h : Exchange g g' cs taken [] new) (ha : a.handle ≤ g.device.issued) :
    a ∉ Call.released cs ∧ a ∉ new := by
  have hl := h.ledger
  rw [List.append_nil] at hl
  have hcreated := h.notMem_created ha
  exact ⟨fun hm => hcreated (hl.mem_iff.mpr (List.mem_append_left _ hm)),
    fun hm => hcreated (hl.mem_iff.mpr (List.mem_append_right _ hm))⟩

/-- Of the older assets each is released as often as it is given back. -/
theorem count_released (h : Exchange g g₀ cs taken gone []) (ha : a.handle ≤ g.device.issued) :
    (Call.released cs).count a = gone.count a := by
  have hl := h.ledger.count_eq a
  rw [List.append_nil, List.count_append, List.count_eq_zero.mpr (h.notMem_created ha),
    Nat.zero_add] at hl
  exact hl.symm

end Gateway.Exchange

/-- Between two gateways the calls give back what the tensor owned, once each, and nothing that it
had on loan: that is still there, as it was, but not mapped. -/
structure Relinquished (t : Tensor) (g g' : Gateway) (cs : List Call) : Prop where
  calls : g'.calls = g.calls ++ cs
  released : ∀ a ∈ t.assets, (Call.released cs).count a = 1 ∧ a ∉ g'.device.assets
  retained : ∀ a ∈ t.loans, a ∉ Call.released cs ∧ (a ∈ g.device.assets → a ∈ g'.device.assets)
  buffers : ∀ i, .buffer i ∈ t.loans → g'.device.buffers.get? i = g.device.buffers.get? i
  bytes : ∀ i, .memory i ∈ t.loans → g'.device.bytes? i = g.device.bytes? i
  unmapped : ∀ p, t.mapping? = some p → g'.device.isMapped p.memory = false

/-- A tensor gives back what it holds, and what happens then is only about new assets. -/
theorem Tensor.Regular.relinquished {t : Tensor} {g g₀ g' : Gateway} {cs cs' : List Call}
    {taken new : List Asset} (ht : t.Regular g.device.issued) (hg : g.device.Numbered)
    (hx : Exchange g g₀ cs (t.mapped ++ t.assets) t.assets [])
    (hd : g₀.device = (t.releaseHoldings g).device) (hy : Exchange g₀ g' cs' taken [] new)
    (hspares : Device.Spares g₀.device g'.device [])
    (hlater : ∀ a ∈ taken, g₀.device.issued < a.handle) : Relinquished t g g' (cs ++ cs') := by
  have hle {i : Handle} (hi : i ≤ g.device.issued) : i ≤ g₀.device.issued :=
    Nat.le_trans hi hx.frame.issued
  have hold {a : Asset} (ha : a.handle ≤ g.device.issued) : a ∉ taken := fun hm =>
    absurd (hle ha) (Nat.not_le.mpr (hlater a hm))
  have hcount {a : Asset} (ha : a.handle ≤ g.device.issued) :
      (Call.released (cs ++ cs')).count a = t.assets.count a := by
    rw [Call.released_append, List.count_append, hx.count_released ha,
      List.count_eq_zero.mpr (hy.notMem_released (hle ha)).1, Nat.add_zero]
  have hlive {a : Asset} (ha : a.handle ≤ g.device.issued) :
      a ∈ g'.device.assets ↔ a ∈ g.device.assets ∧ a ∉ t.assets := by
    rw [hy.live, hx.live]
    simp [(hy.notMem_released (hle ha)).2]
  have howned {a : Asset} (ha : a ∈ t.assets) : a.handle ≤ g.device.issued :=
    ht.issued a (List.mem_append_left _ ha)
  have hlent {a : Asset} (ha : a ∈ t.loans) : a.handle ≤ g.device.issued ∧ a ∉ t.assets :=
    ⟨ht.issued a (List.mem_append_right _ ha), fun hm => ht.unlent a hm ha⟩
  constructor
  case calls =>
    obtain ⟨ms, hp⟩ := hx.passage
    obtain ⟨ms', hp'⟩ := hy.passage
    rw [hp'.calls, hp.calls, List.append_assoc]
  case released =>
    intro a ha
    refine ⟨?_, fun hm => ((hlive (howned ha)).mp hm).2 ha⟩
    rw [hcount (howned ha)]
    exact List.count_eq_one_of_mem ht.nodup ha
  case retained =>
    intro a ha
    obtain ⟨hi, hn⟩ := hlent ha
    refine ⟨?_, fun hm => (hlive hi).mpr ⟨hm, hn⟩⟩
    rw [← List.count_eq_zero, hcount hi]
    exact List.count_eq_zero.mpr hn
  case buffers =>
    intro i hi
    obtain ⟨hi, hn⟩ := hlent hi
    have hmapped : .buffer i ∉ t.mapped := by
      rw [ht.mapped]
      cases t.mapping? <;> simp
    rw [hy.frame.buffers i (hle hi) (hold hi)]
    exact hx.frame.buffers i hi fun hm => (List.mem_append.mp hm).elim hmapped hn
  case bytes =>
    intro i hi
    obtain ⟨hi, hn⟩ := hlent hi
    rw [Device.bytes?, hspares.memories i (hle hi) List.not_mem_nil, hd]
    exact bytes?_releaseHoldings hn
  case unmapped =>
    intro p hp
    have hm : .memory p.memory ∈ t.mapped := by
      rw [ht.mapped, hp]
      exact List.mem_singleton.mpr rfl
    have hi : p.memory ≤ g.device.issued := ht.issued _ (t.mapped_subset hm)
    rw [Device.isMapped_of_shape (hy.frame.memories _ (hle hi) (hold hi)), hd]
    refine Bool.eq_false_iff.mpr fun h => ?_
    exact ((t.isMapped_releaseHoldings hg p.memory).mp h).2.1 hm

end TensorMemory
