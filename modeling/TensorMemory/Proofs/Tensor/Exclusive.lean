import Mathlib.Logic.Function.Basic
import TensorMemory.Proofs.Tensor.Mapping

/-!
Tensors that share a device. A tensor asks the device to map a memory and does not ask whether
another tensor uses it; that no memory is mapped for two of them rests on the one flag that the
device keeps for each memory. The flag is set exactly while a live tensor has the memory mapped
(`Exclusive`). Giving back, taking in and everything else keep it so, whichever calls fail.
-/

namespace TensorMemory

open Gateway (Exchange Furnished)

namespace Tensor

/-- A tensor in its place on a device: its handles have been given out, it owns nothing that it has
on loan, and it is mapped. -/
structure Settled (t : Tensor) (d : Device) : Prop where
  issued : ∀ a ∈ t.assets ++ t.loans, a.handle ≤ d.issued
  unlent : ∀ a ∈ t.assets, a ∉ t.loans
  mounted : t.Mounted d

/-- The first owns nothing of the second, and no memory is mapped for both. -/
structure Apart (t u : Tensor) : Prop where
  owned : ∀ a ∈ t.assets, a ∉ u.assets ++ u.loans
  mapped : ∀ i, .memory i ∈ t.mapped → .memory i ∉ u.mapped

variable {t u : Tensor} {d d' : Device} {i : Handle}

theorem Settled.mapped_issued (h : t.Settled d) (hi : .memory i ∈ t.mapped) : i ≤ d.issued :=
  h.issued _ (t.mapped_subset hi)

theorem Settled.keep (h : t.Settled d) (hd : d.issued ≤ d'.issued)
    (hs : ∀ i, .memory i ∈ t.mapped →
      (d'.memories.get? i).map Memory.shape = (d.memories.get? i).map Memory.shape) :
    t.Settled d' where
  issued a ha := Nat.le_trans (h.issued a ha) hd
  unlent := h.unlent
  mounted := h.mounted.keep hs

/-- The tensor, if it is live. -/
def live? (t : Tensor) : Option Tensor := t.resources?.map fun _ => t

theorem live?_eq_some : t.live? = some u ↔ u = t ∧ ∃ r, t.residence = .live r := by
  simp only [live?, Option.map_eq_some_iff, resources?_eq_some]
  exact ⟨fun ⟨r, hr, he⟩ => ⟨he.symm, r, hr⟩, fun ⟨he, r, hr⟩ => ⟨r, hr, he.symm⟩⟩

theorem isInitialized_of_mapping {p : Place} (h : t.mapping? = some p) :
    t.isInitialized = true := by
  obtain ⟨r, hr, -⟩ := Option.bind_eq_some_iff.mp h
  simp [isInitialized_eq, primary?, hr, h]

/-- What one tensor gives back does not concern another. -/
theorem Settled.release {g : Gateway} (h : u.Settled g.device) (hg : g.device.Numbered)
    (ht : t.Apart u) (hu : u.Apart t) : u.Settled (t.releaseHoldings g).device := by
  obtain ⟨cs, hx⟩ := t.releaseHoldings_exchange hg
  refine h.keep hx.frame.issued fun i hi => hx.frame.memories i (h.mapped_issued hi) ?_
  intro hi'
  rcases List.mem_append.mp hi' with hi' | hi'
  · exact hu.mapped i hi hi'
  · exact ht.owned _ hi' (u.mapped_subset hi)

end Tensor

namespace Gateway.Furnished

variable {g g' : Gateway} {kind : Placement} {dtype : ElementType} {size : Nat}
  {data : Option Block} {primary staging : Option LentBuffer} {r : Resources} {cs : List Call}
  {ps qs : List BoundPair}

theorem settled (h : Furnished g g' kind dtype size data primary staging r cs ps qs)
    (hg : g.device.Numbered) (hl : ∀ a ∈ r.backing.loans, a.handle ≤ g.device.issued) :
    (⟨kind, dtype, size, .live r⟩ : Tensor).Settled g'.device := by
  refine ⟨fun a ha => ?_, fun a ha ha' => ?_, h.mounted hg⟩
  · rcases List.mem_append.mp ha with ha | ha
    · exact (h.later ha).2
    · exact Nat.le_trans (hl a ha) h.exchange.frame.issued
  · exact absurd (hl a ha') (Nat.not_le.mpr (h.later ha).1)

/-- New resources are apart from all others: what is created has a later handle than anything there
is, and what gets mapped was not mapped. -/
theorem apart (h : Furnished g g' kind dtype size data primary staging r cs ps qs)
    (hg : g.device.Numbered) {u : Tensor} (hu : u.Settled g.device)
    (hl : ∀ a ∈ r.backing.loans, a ∉ u.assets) :
    (⟨kind, dtype, size, .live r⟩ : Tensor).Apart u ∧
      u.Apart ⟨kind, dtype, size, .live r⟩ ∧ u.Settled g'.device := by
  have new {a : Asset} (ha : a ∈ r.backing.assets) : a ∉ u.assets ++ u.loans := fun hm =>
    absurd (hu.issued a hm) (Nat.not_le.mpr (h.later ha).1)
  have unseen {i : Handle} (hi : .memory i ∈ r.mapped kind) : .memory i ∉ u.mapped := by
    intro hi'
    have hset := hu.mounted.isMapped hi'
    rw [h.unmapped_before hg hi] at hset
    cases hset
  refine ⟨⟨fun a ha => new ha, fun i hi => unseen hi⟩,
    ⟨fun a ha ha' => ?_, fun i hi hi' => unseen hi' hi⟩, ?_⟩
  · rcases List.mem_append.mp ha' with ha' | ha'
    · exact new ha' (List.mem_append_left _ ha)
    · exact hl a ha' ha
  · have hframe := h.exchange.frame
    exact hu.keep hframe.issued fun i hi =>
      hframe.memories i (hu.mapped_issued hi) fun hi' => unseen hi' hi

end Gateway.Furnished

/-- The live tensors, each under its number, are apart, and a memory is mapped exactly while one of
them has it mapped. -/
structure Exclusive (d : Device) (live : Nat → Option Tensor) : Prop where
  coherent : d.Coherent
  settled : ∀ {n t}, live n = some t → t.Settled d
  apart : ∀ {n m t u}, live n = some t → live m = some u → n ≠ m → t.Apart u
  mapped : ∀ {i}, d.isMapped i = true → ∃ n t, live n = some t ∧ .memory i ∈ t.mapped

namespace Exclusive

variable {d d' : Device} {g g' : Gateway} {live : Nat → Option Tensor} {n m : Nat}
  {t u : Tensor} {i : Handle}

/-- Whatever leaves mapped memories as they are and maps none. -/
theorem keep (h : Exclusive d live) (hc : d'.Coherent) (hd : d.issued ≤ d'.issued)
    (hs : ∀ i, d.isMapped i = true →
      (d'.memories.get? i).map Memory.shape = (d.memories.get? i).map Memory.shape)
    (hm : ∀ i, d'.isMapped i = true → d.isMapped i = true) : Exclusive d' live where
  coherent := hc
  settled ht := (h.settled ht).keep hd fun i hi => hs i ((h.settled ht).mounted.isMapped hi)
  apart := h.apart
  mapped hi := h.mapped (hm _ hi)

theorem exchange {cs : List Call} (h : Exclusive g.device live)
    (hx : Exchange g g' cs [] [] []) : Exclusive g'.device live := by
  have hg := h.coherent.toNumbered
  have hlive {a : Asset} (ha : a ∈ g'.device.assets) : a ∈ g.device.assets :=
    (((hx.live a).mp ha).resolve_right List.not_mem_nil).1
  have hshape {i : Handle} (hi : .memory i ∈ g.device.assets) :
      (g'.device.memories.get? i).map Memory.shape =
        (g.device.memories.get? i).map Memory.shape := by
    have hle := (hg.le_issued hi).2
    exact hx.frame.memories i hle List.not_mem_nil
  refine h.keep (hx.coherent h.coherent) hx.frame.issued
    (fun i hi => hshape (Device.live_of_mapped hi)) fun i hi => ?_
  rwa [Device.isMapped_of_shape (hshape (hlive (Device.live_of_mapped hi)))] at hi

/-- A tensor that gives back what it holds leaves the others as they are. -/
theorem release (h : Exclusive g.device live) (ht : live n = t.live?) :
    Exclusive (t.releaseHoldings g).device (Function.update live n none) := by
  cases hr : t.residence with
  | vacant | detached =>
    have hnone : live n = none := by rw [ht, Tensor.live?, Tensor.resources?, hr]; rfl
    rw [← hnone, Function.update_eq_self, Tensor.releaseHoldings, hr]
    exact h
  | live r =>
    replace ht : live n = some t := ht.trans (Tensor.live?_eq_some.mpr ⟨rfl, r, hr⟩)
    have hg := h.coherent.toNumbered
    obtain ⟨cs, hx⟩ := t.releaseHoldings_exchange hg
    have others {m : Nat} {u : Tensor} (hu : Function.update live n none m = some u) :
        m ≠ n ∧ live m = some u := by
      rw [Function.update_apply] at hu
      split at hu
      · cases hu
      · next hm => exact ⟨hm, hu⟩
    refine ⟨hx.coherent h.coherent, fun hu => ?_,
      fun hu hv => h.apart (others hu).2 (others hv).2, fun hi => ?_⟩
    · obtain ⟨hm, hu⟩ := others hu
      exact (h.settled hu).release hg (h.apart ht hu hm.symm) (h.apart hu ht hm)
    · obtain ⟨hi, hnt, -⟩ := (t.isMapped_releaseHoldings hg _).mp hi
      obtain ⟨m, u, hu, hmem⟩ := h.mapped hi
      have hm : m ≠ n := by
        rintro rfl
        cases ht.symm.trans hu
        exact hnt hmem
      exact ⟨m, u, by rwa [Function.update_of_ne hm], hmem⟩

/-- New resources are apart from what the tensors there are hold. -/
theorem furnish {kind : Placement} {dtype : ElementType} {size : Nat} {data : Option Block}
    {primary staging : Option LentBuffer} {r : Resources} {cs : List Call} {ps qs : List BoundPair}
    (h : Exclusive g.device live) (hn : live n = none)
    (hf : Furnished g g' kind dtype size data primary staging r cs ps qs)
    (hl : ∀ a ∈ r.backing.loans,
      a.handle ≤ g.device.issued ∧ ∀ m u, live m = some u → a ∉ u.assets) :
    Exclusive g'.device (Function.update live n (some ⟨kind, dtype, size, .live r⟩)) := by
  have hg := h.coherent.toNumbered
  have apart {m : Nat} {u : Tensor} (hu : live m = some u) :=
    hf.apart hg (h.settled hu) fun a ha => (hl a ha).2 m u hu
  have lookup {m : Nat} {u : Tensor} (hu : Function.update live n
      (some ⟨kind, dtype, size, .live r⟩) m = some u) :
      m = n ∧ u = ⟨kind, dtype, size, .live r⟩ ∨ live m = some u := by
    rw [Function.update_apply] at hu
    split at hu
    · next hm => exact .inl ⟨hm, (Option.some.inj hu).symm⟩
    · exact .inr hu
  refine ⟨hf.exchange.coherent h.coherent, fun hu => ?_, fun hu hv hmk => ?_, fun hi => ?_⟩
  · rcases lookup hu with ⟨-, rfl⟩ | ho
    · exact hf.settled hg fun a ha => (hl a ha).1
    · exact (apart ho).2.2
  · rcases lookup hu with ⟨hm, rfl⟩ | ho <;> rcases lookup hv with ⟨hk, rfl⟩ | ho'
    · exact absurd (hm.trans hk.symm) hmk
    · exact (apart ho').1
    · exact (apart ho).2.1
    · exact h.apart ho ho' hmk
  · rcases (hf.isMapped hg _).mp hi with hold | hnew
    · obtain ⟨m, u, hu, hmem⟩ := h.mapped hold
      have hm : m ≠ n := by
        rintro rfl
        cases hn.symm.trans hu
      exact ⟨m, u, by rwa [Function.update_of_ne hm], hmem⟩
    · exact ⟨n, _, Function.update_self .., hnew⟩

end Exclusive

end TensorMemory
