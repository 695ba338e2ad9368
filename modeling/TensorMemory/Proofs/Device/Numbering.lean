import TensorMemory.Proofs.Device.Submission

/-!
The numbering of handles, as an invariant of devices (`Numbered`). One lemma for each table says
what a new or changed entry has to meet; every operation is then one of these cases, and a run is an
induction on its operations (`Reachable.numbered`).
-/

namespace TensorMemory.Device

/-- Every handle in use was given out before, and no handle is both a buffer's and a memory's. -/
structure Numbered (d : Device) : Prop where
  buffers : ∀ {h b}, d.buffers.get? h = some b → 0 < h ∧ h ≤ d.issued
  memories : ∀ {h m}, d.memories.get? h = some m → 0 < h ∧ h ≤ d.issued
  commandBuffers : ∀ {h c}, d.commandBuffers.get? h = some c → 0 < h ∧ h ≤ d.issued
  /-- Also a binding to a memory that is gone names a handle that was given out. -/
  bindings : ∀ {h b p}, d.buffers.get? h = some b → b.binding = some p → p.memory ≤ d.issued
  apart : ∀ {h b m}, d.buffers.get? h = some b → d.memories.get? h = some m → False

namespace Numbered

variable {d d' : Device}

theorem ofTypes (types : List Mask) : (Device.ofTypes types).Numbered := by
  constructor <;> intros <;> simp_all [Device.ofTypes, Device.ofProperties]

theorem le_issued (hd : d.Numbered) {a : Asset} (ha : a ∈ d.assets) :
    0 < a.handle ∧ a.handle ≤ d.issued := by
  cases a with
  | buffer h => obtain ⟨b, hb⟩ := buffer_mem_assets.mp ha; exact hd.buffers hb
  | memory h => obtain ⟨m, hm⟩ := memory_mem_assets.mp ha; exact hd.memories hm

/-- Assets are told apart by their handles alone. -/
theorem handle_injective (hd : d.Numbered) {a b : Asset} (ha : a ∈ d.assets) (hb : b ∈ d.assets)
    (h : a.handle = b.handle) : a = b := by
  cases a with
  | buffer x =>
    cases b with
    | buffer y => exact congrArg Asset.buffer h
    | memory y =>
      obtain ⟨_, hx⟩ := buffer_mem_assets.mp ha
      obtain ⟨_, hy⟩ := memory_mem_assets.mp hb
      rw [show x = y from h] at hx
      exact (hd.apart hx hy).elim
  | memory x =>
    cases b with
    | memory y => exact congrArg Asset.memory h
    | buffer y =>
      obtain ⟨_, hx⟩ := memory_mem_assets.mp ha
      obtain ⟨_, hy⟩ := buffer_mem_assets.mp hb
      rw [show x = y from h] at hx
      exact (hd.apart hy hx).elim

theorem buffer_absent (hd : d.Numbered) {h : Handle} (hh : d.issued < h) :
    d.buffers.get? h = none := by
  cases hb : d.buffers.get? h with
  | none => rfl
  | some b => exact absurd (hd.buffers hb).2 (Nat.not_le.mpr hh)

theorem memory_absent (hd : d.Numbered) {h : Handle} (hh : d.issued < h) :
    d.memories.get? h = none := by
  cases hm : d.memories.get? h with
  | none => rfl
  | some m => exact absurd (hd.memories hm).2 (Nat.not_le.mpr hh)

/-- Only the four parts that the numbering is about matter to it. -/
theorem transfer (hd : d.Numbered) (hi : d.issued ≤ d'.issued) (hb : d'.buffers = d.buffers)
    (hm : ∀ h m, d'.memories.get? h = some m → ∃ m', d.memories.get? h = some m')
    (hc : ∀ h c, d'.commandBuffers.get? h = some c → ∃ c', d.commandBuffers.get? h = some c') :
    d'.Numbered where
  buffers h := by
    rw [hb] at h
    exact ⟨(hd.buffers h).1, Nat.le_trans (hd.buffers h).2 hi⟩
  memories h := by
    obtain ⟨m, h⟩ := hm _ _ h
    exact ⟨(hd.memories h).1, Nat.le_trans (hd.memories h).2 hi⟩
  commandBuffers h := by
    obtain ⟨c, h⟩ := hc _ _ h
    exact ⟨(hd.commandBuffers h).1, Nat.le_trans (hd.commandBuffers h).2 hi⟩
  bindings h hp := by
    rw [hb] at h
    exact Nat.le_trans (hd.bindings h hp) hi
  apart h hm' := by
    rw [hb] at h
    obtain ⟨m, hm'⟩ := hm _ _ hm'
    exact hd.apart h hm'

theorem violate (hd : d.Numbered) (v : Violation) : (d.violate v).Numbered :=
  hd.transfer (Nat.le_refl _) rfl (fun _ m h => ⟨m, h⟩) (fun _ c h => ⟨c, h⟩)

theorem createBuffer (hd : d.Numbered) (size : Nat) (usage : Mask) :
    (d.createBuffer size usage).2.Numbered := by
  unfold Device.createBuffer
  split
  · exact hd.violate _
  · have hn := hd.memory_absent (Nat.lt_succ_self d.issued)
    constructor <;> intros <;> grind [Numbered, Table.get?_insert]

theorem allocate (hd : d.Numbered) (size typeIndex : Nat) :
    (d.allocate size typeIndex).2.Numbered := by
  unfold Device.allocate
  split
  · exact hd.violate _
  split
  · exact hd
  · have hn := hd.buffer_absent (Nat.lt_succ_self d.issued)
    constructor <;> intros <;> grind [Numbered, Table.get?_insert]

theorem requirements (hd : d.Numbered) (buffer : Handle) : (d.requirements buffer).2.Numbered := by
  unfold Device.requirements
  split
  · exact hd.violate _
  · exact hd

theorem bind (hd : d.Numbered) (buffer memory : Handle) (offset : Nat) :
    (d.bind buffer memory offset).2.Numbered := by
  unfold Device.bind
  split
  · exact hd.violate _
  next m hm =>
  split
  · exact hd.violate _
  next b hb =>
  split
  · exact hd.violate _
  split
  · exact hd
  · have hle := (hd.memories hm).2
    constructor <;> intros <;> grind [Numbered, Table.get?_modify]

/-- Memories may change, but come and go only under the handles they have. -/
theorem modifyMemory (hd : d.Numbered) (memory : Handle) (f : Memory → Memory) :
    Numbered { d with memories := d.memories.modify memory f } := by
  refine hd.transfer (Nat.le_refl _) rfl ?_ (fun _ c h => ⟨c, h⟩)
  intro h m hm
  simp only [Table.get?_modify] at hm
  split at hm
  · obtain ⟨m', hm', -⟩ := Option.map_eq_some_iff.mp hm
    exact ⟨m', hm'⟩
  · exact ⟨m, hm⟩

theorem map (hd : d.Numbered) (memory : Handle) (offset size : Nat) :
    (d.map memory offset size).2.Numbered := by
  unfold Device.map
  split
  · exact hd
  split
  · exact hd
  next m _ _ =>
  generalize (if size = wholeSize then m.contents.size - offset else size) = n
  dsimp only
  split
  · exact hd
  · exact hd.modifyMemory _ _

theorem unmap (hd : d.Numbered) (memory : Handle) : (d.unmap memory).Numbered := by
  unfold Device.unmap
  split
  · exact hd.modifyMemory _ _
  · exact hd.violate _

theorem destroyBuffer (hd : d.Numbered) (buffer : Handle) : (d.destroyBuffer buffer).Numbered := by
  unfold Device.destroyBuffer
  split
  · exact hd
  split
  · constructor <;> intros <;> grind [Numbered, Table.get?_erase]
  · exact hd.violate _

theorem eraseMemory (hd : d.Numbered) (memory : Handle) (n : Nat) :
    Numbered { d with memories := d.memories.erase memory, memoriesFreed := n } := by
  refine hd.transfer (Nat.le_refl _) rfl ?_ (fun _ c h => ⟨c, h⟩)
  intro h m hm
  simp only [Table.get?_erase] at hm
  split at hm
  · cases hm
  · exact ⟨m, hm⟩

theorem freeMemory (hd : d.Numbered) (memory : Handle) : (d.freeMemory memory).Numbered := by
  unfold Device.freeMemory
  split
  · exact hd
  have hv : (if d.isBoundTo memory then d.violate (.freedWhileBound memory) else d).Numbered := by
    split
    · exact hd.violate _
    · exact hd
  revert hv
  generalize (if d.isBoundTo memory then d.violate (.freedWhileBound memory) else d) = d'
  intro hv
  dsimp only
  split
  · exact hv.eraseMemory _ _
  · exact hv.violate _

theorem record (hd : d.Numbered) (commandBuffer : Handle) (command : Command) :
    (d.record commandBuffer command).Numbered := by
  unfold Device.record
  split
  · refine hd.transfer (Nat.le_refl _) rfl (fun _ m h => ⟨m, h⟩) ?_
    intro h c hc
    simp only [Table.get?_modify] at hc
    split at hc
    · obtain ⟨c', hc', -⟩ := Option.map_eq_some_iff.mp hc
      exact ⟨c', hc'⟩
    · exact ⟨c, hc⟩
  · exact hd.violate _

theorem newCommandBuffer (hd : d.Numbered) : d.newCommandBuffer.2.Numbered := by
  unfold Device.newCommandBuffer
  constructor <;> intros <;> grind [Numbered, Table.get?_insert]

theorem store (hd : d.Numbered) (place : Place) (chunk : Block) : (d.store place chunk).Numbered :=
  hd.modifyMemory _ _

theorem createBound (hd : d.Numbered) (size : Nat) (usage flags : Mask) :
    (d.createBound size usage flags).2.Numbered := by
  obtain ⟨ops, h, hops⟩ := d.createBound_eq_run size usage flags
  rw [h]
  clear h
  induction ops generalizing d with
  | nil => exact hd
  | cons op ops ih =>
    rw [run_cons]
    refine ih ?_ fun o ho => hops o (List.mem_cons_of_mem _ ho)
    rcases hops op (List.mem_cons_self ..) with ⟨n, rfl⟩ | ⟨b, rfl⟩ | ⟨n, i, rfl⟩ | ⟨b, m, rfl⟩
    · exact hd.createBuffer _ _
    · exact hd.requirements _
    · exact hd.allocate _ _
    · exact hd.bind _ _ _

theorem refilled (hd : d.Numbered) (h : Refilled d d') : d'.Numbered := by
  refine hd.transfer (Nat.le_of_eq h.issued.symm) h.buffers ?_ ?_
  · intro i m hm
    obtain ⟨m', hm', -⟩ := h.memory hm
    exact ⟨m', hm'⟩
  · intro i c hc
    rw [h.commandBuffers] at hc
    exact ⟨c, hc⟩

theorem submit (hd : d.Numbered) (commandBuffer : Handle) :
    (d.submit commandBuffer).2.Numbered := by
  refine refilled ?_ (submit_refilled d commandBuffer)
  refine hd.transfer (Nat.le_refl _) rfl (fun _ m h => ⟨m, h⟩) ?_
  intro h c hc
  simp only [Table.get?_modify] at hc
  split at hc
  · obtain ⟨c', hc', -⟩ := Option.map_eq_some_iff.mp hc
    exact ⟨c', hc'⟩
  · exact ⟨c, hc⟩

theorem perform (hd : d.Numbered) (op : Operation) : (d.perform op).Numbered := by
  cases op with
  | createBuffer size usage => exact hd.createBuffer _ _
  | allocate size typeIndex => exact hd.allocate _ _
  | requirements buffer => exact hd.requirements _
  | bind buffer memory offset => exact hd.bind _ _ _
  | map memory offset size => exact hd.map _ _ _
  | unmap memory => exact hd.unmap _
  | destroyBuffer buffer => exact hd.destroyBuffer _
  | freeMemory memory => exact hd.freeMemory _
  | record commandBuffer command => exact hd.record _ _
  | newCommandBuffer => exact hd.newCommandBuffer
  | submit commandBuffer => exact hd.submit _
  | write buffer chunk => exact hd.refilled (write_refilled d buffer chunk)
  | store place chunk => exact hd.store _ _
  | createBound size usage flags => exact hd.createBound _ _ _
  | limitAllocations count =>
    exact hd.transfer (Nat.le_refl _) rfl (fun _ m h => ⟨m, h⟩) (fun _ c h => ⟨c, h⟩)

theorem run (hd : d.Numbered) (ops : List Operation) : (d.run ops).Numbered := by
  induction ops generalizing d with
  | nil => exact hd
  | cons op ops ih => exact ih (hd.perform op)

end Numbered

theorem Reachable.numbered {d : Device} (h : d.Reachable) : d.Numbered := by
  obtain ⟨types, ops, rfl⟩ := h
  exact (Numbered.ofTypes types).run ops

end TensorMemory.Device
