import TensorMemory.Proofs.Device.Pair
import TensorMemory.Proofs.Device.Representation

/-!
Which memories a device has mapped. Only mapping maps a memory (`isMapped_perform`), and a memory
that is live, that the host can see and that is not mapped can be mapped (`Mappable.map`).
-/

namespace TensorMemory.Device

variable {d d' : Device} {i : Handle}

theorem isMapped_iff :
    d.isMapped i = true ↔ ∃ m, d.memories.get? i = some m ∧ m.mapped = true := by
  simp [isMapped, Option.any_eq_true]

theorem live_of_mapped (h : d.isMapped i = true) : .memory i ∈ d.assets := by
  obtain ⟨m, hm, -⟩ := isMapped_iff.mp h
  exact memory_mem_assets.mpr ⟨m, hm⟩

/-- The shape of a memory says whether it is mapped. -/
theorem isMapped_of_shape
    (h : (d'.memories.get? i).map Memory.shape = (d.memories.get? i).map Memory.shape) :
    d'.isMapped i = d.isMapped i := by
  have hshape (e : Device) :
      e.isMapped i = ((e.memories.get? i).map Memory.shape).any (·.2.2) := by
    rw [isMapped]
    cases e.memories.get? i <;> rfl
  rw [hshape d', hshape d, h]

theorem Unchanged.isMapped (h : Unchanged d d') (i : Handle) : d'.isMapped i = d.isMapped i := by
  rw [Device.isMapped, h.memories, Device.isMapped]

theorem isMapped_unmap (d : Device) (i : Handle) : (d.unmap i).isMapped i = false := by
  unfold unmap
  split
  · rw [isMapped, Table.get?_modify, if_pos rfl]
    cases d.memories.get? i <;> rfl
  · next h => exact Bool.eq_false_iff.mpr h

/-- Fresh memory is not mapped. -/
theorem isMapped_withPairs {ps : List BoundPair} (hd : d.Numbered) (h : Fresh d ps) (i : Handle) :
    (d.withPairs ps).isMapped i = d.isMapped i := by
  by_cases hi : i ≤ d.issued
  · exact isMapped_of_shape ((frame_withPairs h).memories i hi List.not_mem_nil)
  have habsent := hd.memory_absent (Nat.not_le.mp hi)
  rw [show d.isMapped i = false by rw [isMapped, habsent]; rfl]
  refine Bool.eq_false_iff.mpr fun hm => ?_
  obtain ⟨m, hm, hmapped⟩ := isMapped_iff.mp hm
  rcases Table.mem_of_get?_insertAll hm with ho | hn
  · cases habsent.symm.trans ho
  · obtain ⟨p, -, he⟩ := List.mem_map.mp hn
    cases he
    cases hmapped

section Operations

variable (d)

theorem isMapped_createBuffer (size : Nat) (usage : Mask) :
    (d.createBuffer size usage).2.isMapped i = d.isMapped i := by
  unfold createBuffer
  split <;> rfl

theorem isMapped_requirements (buffer : Handle) :
    (d.requirements buffer).2.isMapped i = d.isMapped i := by
  unfold requirements
  split <;> rfl

theorem isMapped_bind (buffer memory : Handle) (offset : Nat) :
    (d.bind buffer memory offset).2.isMapped i = d.isMapped i := by
  unfold bind
  repeat' split
  all_goals rfl

theorem isMapped_destroyBuffer (buffer : Handle) :
    (d.destroyBuffer buffer).isMapped i = d.isMapped i := by
  unfold destroyBuffer
  repeat' split
  all_goals rfl

theorem isMapped_record (commandBuffer : Handle) (command : Command) :
    (d.record commandBuffer command).isMapped i = d.isMapped i := by
  unfold record
  split <;> rfl

variable {d}

theorem isMapped_allocate {size typeIndex : Nat}
    (h : (d.allocate size typeIndex).2.isMapped i = true) : d.isMapped i = true := by
  unfold allocate at h
  split at h
  · exact h
  split at h
  · exact h
  rw [isMapped, Table.get?_insert] at h
  split at h
  · cases h
  · exact h

theorem isMapped_freeMemory {memory : Handle} (h : (d.freeMemory memory).isMapped i = true) :
    d.isMapped i = true := by
  unfold freeMemory at h
  split at h
  · exact h
  have hv : (if d.isBoundTo memory then d.violate (.freedWhileBound memory) else d).isMapped i =
      d.isMapped i := by split <;> rfl
  revert h hv
  generalize (if d.isBoundTo memory then d.violate (.freedWhileBound memory) else d) = d'
  intro h hv
  dsimp only at h
  rw [← hv]
  split at h
  · rw [isMapped, Table.get?_erase] at h
    split at h
    · cases h
    · exact h
  · exact h

theorem isMapped_createBound {size : Nat} {usage flags : Mask}
    (h : (d.createBound size usage flags).2.isMapped i = true) : d.isMapped i = true := by
  obtain ⟨ops, he, hops⟩ := d.createBound_eq_run size usage flags
  rw [he] at h
  clear he
  induction ops generalizing d with
  | nil => exact h
  | cons op ops ih =>
    have hrest := ih h fun o ho => hops o (List.mem_cons_of_mem _ ho)
    rcases hops op (List.mem_cons_self ..) with ⟨n, rfl⟩ | ⟨b, rfl⟩ | ⟨n, j, rfl⟩ | ⟨b, m, rfl⟩
    · exact d.isMapped_createBuffer n usage ▸ hrest
    · exact d.isMapped_requirements b ▸ hrest
    · exact isMapped_allocate hrest
    · exact d.isMapped_bind b m 0 ▸ hrest

/-- Only mapping maps a memory. -/
theorem isMapped_perform {op : Operation} (hop : ∀ j offset size, op ≠ .map j offset size)
    (h : (d.perform op).isMapped i = true) : d.isMapped i = true := by
  have shaped {d' : Device} (h : d'.isMapped i = true)
      (hs : (d'.memories.get? i).map Memory.shape = (d.memories.get? i).map Memory.shape) :
      d.isMapped i = true := by rwa [isMapped_of_shape hs] at h
  cases op with
  | createBuffer size usage => exact d.isMapped_createBuffer size usage ▸ h
  | allocate size typeIndex => exact isMapped_allocate h
  | requirements buffer => exact d.isMapped_requirements buffer ▸ h
  | bind buffer memory offset => exact d.isMapped_bind buffer memory offset ▸ h
  | map memory offset size => exact absurd rfl (hop memory offset size)
  | unmap memory =>
    by_cases hi : i = memory
    · rw [hi, perform, isMapped_unmap] at h
      cases h
    · dsimp only [perform] at h
      unfold unmap at h
      split at h
      · rwa [isMapped, Table.get?_modify, if_neg hi] at h
      · exact h
  | destroyBuffer buffer => exact d.isMapped_destroyBuffer buffer ▸ h
  | freeMemory memory => exact isMapped_freeMemory h
  | record commandBuffer command => exact d.isMapped_record commandBuffer command ▸ h
  | newCommandBuffer => exact h
  | submit commandBuffer => exact shaped h ((submit_refilled d commandBuffer).memories i)
  | write buffer chunk => exact shaped h ((write_refilled d buffer chunk).memories i)
  | store place chunk => exact shaped h ((Refilled.store d place chunk).memories i)
  | createBound size usage flags => exact isMapped_createBound h
  | limitAllocations count => exact h

end Operations

/-- A live memory of a size that the host can see and that is not mapped. -/
def Mappable (d : Device) (i : Handle) (room : Nat) : Prop :=
  ∃ typeIndex, (d.memories.get? i).map Memory.shape = some (room, typeIndex, false) ∧
    d.isVisible typeIndex = true

theorem Mappable.of_shape {room : Nat} (h : d.Mappable i room)
    (hp : d'.properties = d.properties)
    (hs : (d'.memories.get? i).map Memory.shape = (d.memories.get? i).map Memory.shape) :
    d'.Mappable i room := by
  obtain ⟨typeIndex, hshape, hv⟩ := h
  refine ⟨typeIndex, hs.trans hshape, ?_⟩
  rw [isVisible, hp]
  exact hv

theorem Mappable.issued {room : Nat} (h : d.Mappable i room) (hd : d.Numbered) : i ≤ d.issued := by
  obtain ⟨typeIndex, hshape, -⟩ := h
  obtain ⟨m, hm, -⟩ := Option.map_eq_some_iff.mp hshape
  exact (hd.memories hm).2

theorem Mappable.map {room offset size : Nat} (h : d.Mappable i room)
    (hr : offset + size ≤ room) (hw : size ≠ wholeSize) :
    ∃ d', d.map i offset size = (.ok ⟨i, offset⟩, d') := by
  obtain ⟨typeIndex, hshape, hv⟩ := h
  obtain ⟨m, hm, he⟩ := Option.map_eq_some_iff.mp hshape
  simp only [Memory.shape, Prod.mk.injEq] at he
  obtain ⟨rfl, rfl, hf⟩ := he
  have hrefused : ¬(m.mapped || !(d.properties.slot m.typeIndex).flags.contains
      MemoryFlags.hostVisible) = true := by
    rw [hf, show (d.properties.slot m.typeIndex).flags.contains MemoryFlags.hostVisible = true
      from hv]
    decide
  unfold Device.map
  rw [hm]
  dsimp only
  rw [if_neg hrefused, if_neg hw, if_neg (Nat.not_lt.mpr hr)]
  exact ⟨_, rfl⟩

end TensorMemory.Device
