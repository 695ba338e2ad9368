import TensorMemory.Proofs.Device.Numbering

/-!
What an operation leaves alone. An operation takes the assets that it binds, maps, unmaps or
releases. Of all other assets that were there before, buffers stay as they are, memories keep their
shape, and no binding to them is added (`frame_perform`).
-/

namespace TensorMemory.Device

namespace Operation

/-- The assets that an operation releases. -/
def released : Operation → List Asset
  | destroyBuffer buffer => [.buffer buffer]
  | freeMemory memory => [.memory memory]
  | _ => []

/-- The assets that an operation maps, unmaps or releases. -/
def disturbed : Operation → List Asset
  | map memory _ _ => [.memory memory]
  | unmap memory => [.memory memory]
  | op => op.released

/-- The assets that an operation binds or disturbs. -/
def taken : Operation → List Asset
  | bind buffer memory _ => [.buffer buffer, .memory memory]
  | op => op.disturbed

end Operation

structure Frame (d d' : Device) (taken released : List Asset) : Prop where
  issued : d.issued ≤ d'.issued
  properties : d'.properties = d.properties
  assets : ∀ a : Asset, a.handle ≤ d.issued → a ∉ released → (a ∈ d'.assets ↔ a ∈ d.assets)
  buffers : ∀ h ≤ d.issued, .buffer h ∉ taken → d'.buffers.get? h = d.buffers.get? h
  memories : ∀ h ≤ d.issued, .memory h ∉ taken →
    (d'.memories.get? h).map Memory.shape = (d.memories.get? h).map Memory.shape
  bindings : ∀ {h b p}, d'.buffers.get? h = some b → b.binding = some p → p.memory ≤ d.issued →
    .memory p.memory ∉ taken → ∃ b', d.buffers.get? h = some b' ∧ b'.binding = some p

namespace Frame

variable {d d' d'' : Device} {t t' r r' : List Asset}

theorem trans (h : Frame d d' t r) (h' : Frame d' d'' t' r') :
    Frame d d'' (t ++ t') (r ++ r') where
  issued := Nat.le_trans h.issued h'.issued
  properties := h'.properties.trans h.properties
  assets a ha hr := by
    rw [List.mem_append, not_or] at hr
    exact (h'.assets a (Nat.le_trans ha h.issued) hr.2).trans (h.assets a ha hr.1)
  buffers i hi ht := by
    rw [List.mem_append, not_or] at ht
    exact (h'.buffers i (Nat.le_trans hi h.issued) ht.2).trans (h.buffers i hi ht.1)
  memories i hi ht := by
    rw [List.mem_append, not_or] at ht
    exact (h'.memories i (Nat.le_trans hi h.issued) ht.2).trans (h.memories i hi ht.1)
  bindings hb hp hi ht := by
    rw [List.mem_append, not_or] at ht
    obtain ⟨b', hb', hp'⟩ := h'.bindings hb hp (Nat.le_trans hi h.issued) ht.2
    exact h.bindings hb' hp' hi ht.1

/-- An asset that was not there yet need not be left alone. -/
theorem drop_new (h : Frame d d' t r) (ht : ∀ a ∈ t, d.issued < a.handle)
    (hr : ∀ a ∈ r, d.issued < a.handle) : Frame d d' [] [] where
  issued := h.issued
  properties := h.properties
  assets a ha _ := h.assets a ha fun hm => absurd ha (Nat.not_le.mpr (hr a hm))
  buffers i hi _ := h.buffers i hi fun hm => absurd hi (Nat.not_le.mpr (ht _ hm))
  memories i hi _ := h.memories i hi fun hm => absurd hi (Nat.not_le.mpr (ht _ hm))
  bindings hb hp hi _ := h.bindings hb hp hi fun hm => absurd hi (Nat.not_le.mpr (ht _ hm))

theorem weaken (h : Frame d d' t r) (ht : t ⊆ t') (hr : r ⊆ r') : Frame d d' t' r' where
  issued := h.issued
  properties := h.properties
  assets a ha hm := h.assets a ha fun hm' => hm (hr hm')
  buffers i hi hm := h.buffers i hi fun hm' => hm (ht hm')
  memories i hi hm := h.memories i hi fun hm' => hm (ht hm')
  bindings hb hp hi hm := h.bindings hb hp hi fun hm' => hm (ht hm')

/-- Buffers stay, and memories come and go by none and keep their shapes. -/
theorem of_shapes (hi : d.issued ≤ d'.issued) (hp : d'.properties = d.properties)
    (hb : d'.buffers = d.buffers)
    (hm : ∀ h, (d'.memories.get? h).map Memory.shape = (d.memories.get? h).map Memory.shape) :
    Frame d d' [] [] where
  issued := hi
  properties := hp
  assets a _ _ := by
    cases a with
    | buffer h => rw [buffer_mem_assets, buffer_mem_assets, hb]
    | memory h =>
      have hs := congrArg Option.isSome (hm h)
      rw [Option.isSome_map, Option.isSome_map] at hs
      rw [memory_mem_assets, memory_mem_assets, ← Option.isSome_iff_exists,
        ← Option.isSome_iff_exists, hs]
  buffers h _ _ := by rw [hb]
  memories h _ _ := hm h
  bindings {h b p} hb' hp' _ _ := ⟨b, hb ▸ hb', hp'⟩

theorem refl (d : Device) : Frame d d [] [] :=
  of_shapes (Nat.le_refl _) rfl rfl fun _ => rfl

theorem violate (d : Device) (v : Violation) : Frame d (d.violate v) [] [] :=
  of_shapes (Nat.le_refl _) rfl rfl fun _ => rfl

theorem refilled (h : Refilled d d') : Frame d d' [] [] :=
  of_shapes (Nat.le_of_eq h.issued.symm) h.properties h.buffers h.memories

theorem createBuffer (d : Device) (size : Nat) (usage : Mask) :
    Frame d (d.createBuffer size usage).2 [] [] := by
  unfold Device.createBuffer
  split
  · exact .violate d _
  · refine ⟨Nat.le_succ _, rfl, ?_, ?_, fun _ _ _ => rfl, ?_⟩
    · intro a ha _
      cases a with
      | memory h => simp only [memory_mem_assets]
      | buffer h => grind [buffer_mem_assets, Table.get?_insert, Asset.handle]
    · grind [Table.get?_insert]
    · grind [Table.get?_insert]

theorem allocate (d : Device) (size typeIndex : Nat) :
    Frame d (d.allocate size typeIndex).2 [] [] := by
  unfold Device.allocate
  split
  · exact .violate d _
  split
  · exact .refl d
  · refine ⟨Nat.le_succ _, rfl, ?_, fun _ _ _ => rfl, ?_, fun hb hp _ _ => ⟨_, hb, hp⟩⟩
    · intro a ha _
      cases a with
      | buffer h => simp only [buffer_mem_assets]
      | memory h => grind [memory_mem_assets, Table.get?_insert, Asset.handle]
    · grind [Table.get?_insert]

theorem requirements (d : Device) (buffer : Handle) : Frame d (d.requirements buffer).2 [] [] := by
  unfold Device.requirements
  split
  · exact .violate d _
  · exact .refl d

theorem bind (d : Device) (buffer memory : Handle) (offset : Nat) :
    Frame d (d.bind buffer memory offset).2 [.buffer buffer, .memory memory] [] := by
  have hv (v : Violation) : Frame d (d.violate v) [.buffer buffer, .memory memory] [] :=
    (Frame.violate d v).weaken (by simp) (by simp)
  unfold Device.bind
  split
  · exact hv _
  split
  · exact hv _
  split
  · exact hv _
  split
  · exact (Frame.refl d).weaken (by simp) (by simp)
  · refine ⟨Nat.le_refl _, rfl, ?_, ?_, fun _ _ _ => rfl, ?_⟩
    · simp only [Device.assets, Table.keys_modify, implies_true]
    · grind [Table.get?_modify]
    · grind [Table.get?_modify]

/-- A memory that is mapped or unmapped is still there. -/
theorem modifyMemory (d : Device) (memory : Handle) (f : Memory → Memory) :
    Frame d { d with memories := d.memories.modify memory f } [.memory memory] [] := by
  refine ⟨Nat.le_refl _, rfl, ?_, fun _ _ _ => rfl, ?_, fun hb hp _ _ => ⟨_, hb, hp⟩⟩
  · simp only [Device.assets, Table.keys_modify, implies_true]
  · grind [Table.get?_modify]

theorem map (d : Device) (memory : Handle) (offset size : Nat) :
    Frame d (d.map memory offset size).2 [.memory memory] [] := by
  have hr : Frame d d [.memory memory] [] := (Frame.refl d).weaken (by simp) (by simp)
  unfold Device.map
  split
  · exact hr
  next m _ =>
  split
  · exact hr
  generalize (if size = wholeSize then m.contents.size - offset else size) = n
  dsimp only
  split
  · exact hr
  · exact .modifyMemory d _ _

theorem unmap (d : Device) (memory : Handle) : Frame d (d.unmap memory) [.memory memory] [] := by
  unfold Device.unmap
  split
  · exact .modifyMemory d _ _
  · exact (Frame.violate d _).weaken (by simp) (by simp)

theorem destroyBuffer (d : Device) (buffer : Handle) :
    Frame d (d.destroyBuffer buffer) [.buffer buffer] [.buffer buffer] := by
  unfold Device.destroyBuffer
  split
  · exact (Frame.refl d).weaken (by simp) (by simp)
  split
  · refine ⟨Nat.le_refl _, rfl, ?_, ?_, fun _ _ _ => rfl, ?_⟩
    · intro a _ hr
      cases a with
      | memory h => simp only [memory_mem_assets]
      | buffer h => grind [buffer_mem_assets, Table.get?_erase]
    · grind [Table.get?_erase]
    · grind [Table.get?_erase]
  · exact (Frame.violate d _).weaken (by simp) (by simp)

theorem eraseMemory (d : Device) (memory : Handle) (n : Nat) :
    Frame d { d with memories := d.memories.erase memory, memoriesFreed := n }
      [.memory memory] [.memory memory] := by
  refine ⟨Nat.le_refl _, rfl, ?_, fun _ _ _ => rfl, ?_, fun hb hp _ _ => ⟨_, hb, hp⟩⟩
  · intro a _ hr
    cases a with
    | buffer h => simp only [buffer_mem_assets]
    | memory h => grind [memory_mem_assets, Table.get?_erase]
  · grind [Table.get?_erase]

theorem freeMemory (d : Device) (memory : Handle) :
    Frame d (d.freeMemory memory) [.memory memory] [.memory memory] := by
  unfold Device.freeMemory
  split
  · exact (Frame.refl d).weaken (by simp) (by simp)
  have hv : Frame d (if d.isBoundTo memory then d.violate (.freedWhileBound memory) else d) []
      [] := by
    split
    · exact .violate d _
    · exact .refl d
  revert hv
  generalize (if d.isBoundTo memory then d.violate (.freedWhileBound memory) else d) = d'
  intro hv
  dsimp only
  split
  · exact hv.trans (.eraseMemory d' _ _)
  · exact (hv.trans (.violate d' _)).weaken (by simp) (by simp)

theorem record (d : Device) (commandBuffer : Handle) (command : Command) :
    Frame d (d.record commandBuffer command) [] [] := by
  unfold Device.record
  split
  · exact of_shapes (Nat.le_refl _) rfl rfl fun _ => rfl
  · exact .violate d _

theorem submit (d : Device) (commandBuffer : Handle) :
    Frame d (d.submit commandBuffer).2 [] [] :=
  (of_shapes (Nat.le_refl _) rfl rfl fun _ => rfl : Frame d
    { d with commandBuffers := d.commandBuffers.modify commandBuffer fun _ => [] } [] []).trans
      (.refilled (submit_refilled d commandBuffer))

theorem createBound (d : Device) (size : Nat) (usage flags : Mask) :
    Frame d (d.createBound size usage flags).2 [] [] := by
  unfold Device.createBound
  split
  · exact .refl d
  next i _ =>
  have h₁ := Frame.createBuffer d size usage
  split
  · next hc => rwa [hc] at h₁
  next buffer d₁ hc =>
  rw [hc] at h₁
  have hb : d.issued < buffer := Nat.lt_of_lt_of_eq (Nat.lt_succ_self _) (createBuffer_ok hc).1.symm
  have h₂ := h₁.trans (.requirements d₁ buffer)
  generalize d₁.requirements buffer = needs at h₂
  obtain ⟨needs, d₂⟩ := needs
  dsimp only at h₁ h₂ ⊢
  have h₃ := h₂.trans (.allocate d₂ needs.size i)
  split
  · next ha => rwa [ha] at h₃
  next memory d₃ ha =>
  rw [ha] at h₃
  have hm : d₂.issued < memory := Nat.lt_of_lt_of_eq (Nat.lt_succ_self _) (allocate_ok ha).1.symm
  have h₄ := (h₃.trans (.bind d₃ buffer memory 0)).drop_new (by
    simp only [List.nil_append, List.mem_cons, List.not_mem_nil, or_false]
    rintro a (rfl | rfl)
    · exact hb
    · exact Nat.lt_of_le_of_lt h₂.issued hm) (by simp)
  split
  · next hr => rwa [hr] at h₄
  · next hr => rwa [hr] at h₄

end Frame

/-- An operation leaves alone what it does not take, and keeps alive what it does not release. -/
theorem frame_perform (d : Device) (op : Operation) :
    Frame d (d.perform op) op.taken op.released := by
  cases op with
  | createBuffer size usage => exact .createBuffer d _ _
  | allocate size typeIndex => exact .allocate d _ _
  | requirements buffer => exact .requirements d _
  | bind buffer memory offset => exact .bind d _ _ _
  | map memory offset size => exact .map d _ _ _
  | unmap memory => exact .unmap d _
  | destroyBuffer buffer => exact .destroyBuffer d _
  | freeMemory memory => exact .freeMemory d _
  | record commandBuffer command => exact .record d _ _
  | newCommandBuffer => exact .of_shapes (Nat.le_succ _) rfl rfl fun _ => rfl
  | submit commandBuffer => exact .submit d _
  | write buffer chunk => exact .refilled (write_refilled d buffer chunk)
  | store place chunk => exact .refilled (.store d _ _)
  | createBound size usage flags => exact .createBound d _ _ _
  | limitAllocations count => exact .of_shapes (Nat.le_refl _) rfl rfl fun _ => rfl

theorem Operation.released_subset (op : Operation) : op.released ⊆ op.disturbed := by
  cases op with
  | map memory offset size => exact List.nil_subset _
  | unmap memory => exact List.nil_subset _
  | _ => exact fun _ ha => ha

theorem Operation.disturbed_subset (op : Operation) : op.disturbed ⊆ op.taken := by
  cases op with
  | bind buffer memory offset => exact List.nil_subset _
  | _ => exact fun _ ha => ha

/-- A memory that is not disturbed keeps its shape, also where a buffer is bound to it. -/
theorem shape_perform (d : Device) (op : Operation) {h : Handle} (hi : h ≤ d.issued)
    (hn : .memory h ∉ op.disturbed) :
    ((d.perform op).memories.get? h).map Memory.shape = (d.memories.get? h).map Memory.shape := by
  cases op with
  | bind buffer memory offset =>
    dsimp only [perform]
    unfold Device.bind
    repeat' split
    all_goals rfl
  | _ => exact (frame_perform d _).memories h hi hn

/-! ## What lives on -/

theorem mem_assets_destroyBuffer {d : Device} (hd : d.Numbered) (buffer : Handle) (a : Asset) :
    a ∈ (d.destroyBuffer buffer).assets ↔ a ∈ d.assets ∧ a ≠ .buffer buffer := by
  unfold Device.destroyBuffer
  split
  · next h0 =>
    refine ⟨fun ha => ⟨ha, fun he => ?_⟩, And.left⟩
    have hpos := (hd.le_issued ha).1
    rw [he] at hpos
    exact absurd h0 (Nat.pos_iff_ne_zero.mp hpos)
  split
  · cases a with
    | memory h => simp only [memory_mem_assets, ne_eq, reduceCtorEq, not_false_eq_true, and_true]
    | buffer h => grind [buffer_mem_assets, Table.get?_erase]
  · next hn =>
    refine ⟨fun ha => ⟨ha, fun he => hn ?_⟩, And.left⟩
    exact hasBuffer_iff.mpr (he ▸ ha)

theorem mem_assets_freeMemory {d : Device} (hd : d.Numbered) (memory : Handle) (a : Asset) :
    a ∈ (d.freeMemory memory).assets ↔ a ∈ d.assets ∧ a ≠ .memory memory := by
  unfold Device.freeMemory
  split
  · next h0 =>
    refine ⟨fun ha => ⟨ha, fun he => ?_⟩, And.left⟩
    have hpos := (hd.le_issued ha).1
    rw [he] at hpos
    exact absurd h0 (Nat.pos_iff_ne_zero.mp hpos)
  have hv : (if d.isBoundTo memory then d.violate (.freedWhileBound memory) else d).assets =
      d.assets := by split <;> rfl
  revert hv
  generalize (if d.isBoundTo memory then d.violate (.freedWhileBound memory) else d) = d'
  intro hv
  rw [← hv]
  dsimp only
  split
  · cases a with
    | buffer h => simp only [buffer_mem_assets, ne_eq, reduceCtorEq, not_false_eq_true, and_true]
    | memory h => grind [memory_mem_assets, Table.get?_erase]
  · next hn =>
    refine ⟨fun ha => ⟨ha, fun he => hn ?_⟩, And.left⟩
    exact hasMemory_iff.mpr (he ▸ ha)

theorem mem_assets_unmap (d : Device) (memory : Handle) (a : Asset) :
    a ∈ (d.unmap memory).assets ↔ a ∈ d.assets := by
  unfold Device.unmap
  split
  · simp only [Device.assets, Table.keys_modify]
  · exact .rfl

/-- A released asset is gone. -/
theorem released_notMem {d : Device} (hd : d.Numbered) {op : Operation} {a : Asset}
    (ha : a ∈ op.released) : a ∉ (d.perform op).assets := by
  cases op with
  | destroyBuffer buffer =>
    rw [List.mem_singleton.mp ha]
    exact fun hm => ((mem_assets_destroyBuffer hd _ _).mp hm).2 rfl
  | freeMemory memory =>
    rw [List.mem_singleton.mp ha]
    exact fun hm => ((mem_assets_freeMemory hd _ _).mp hm).2 rfl
  | _ => cases ha

theorem properties_run (d : Device) (ops : List Operation) :
    (d.run ops).properties = d.properties := by
  induction ops generalizing d with
  | nil => rfl
  | cons op ops ih => exact (ih _).trans (frame_perform d op).properties

theorem issued_le_run (d : Device) (ops : List Operation) :
    d.issued ≤ (d.run ops).issued := by
  induction ops generalizing d with
  | nil => exact Nat.le_refl _
  | cons op ops ih => exact Nat.le_trans (frame_perform d op).issued (ih _)

end TensorMemory.Device
