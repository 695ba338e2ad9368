import TensorMemory.Proofs.Device.Pair
import TensorMemory.Proofs.Gateway.Passage
import TensorMemory.Tensor.Backing

/-!
What obtaining a backing does to the device, whichever of its calls fail. A step gains pairs: the
device is as it was but for them, and what the calls of the step created is what they released
again and the pairs. A step that fails gains none (`obtainBacking_spec`).
-/

namespace TensorMemory.Gateway

open Device (Unchanged Fresh)

theorem Passage.fresh_pairs {g g' : Gateway} {cs : List Call} {ms : List MetricEvent}
    {ps : List BoundPair} (h : Passage g g' cs ms)
    (hl : (Call.created cs).Perm (Call.released cs ++ ps.flatMap BoundPair.assets)) :
    Fresh g.device ps where
  later a ha := (h.fresh a (hl.mem_iff.mpr (List.mem_append_right _ ha))).1
  distinct := by
    have hn := (hl.map Asset.handle).nodup_iff.mp h.distinct
    rw [List.map_append] at hn
    exact (List.nodup_append'.mp hn).2.1

structure Gained (g g' : Gateway) (cs : List Call) (ps : List BoundPair) : Prop where
  passage : Passage g g' cs []
  ledger : (Call.created cs).Perm (Call.released cs ++ ps.flatMap BoundPair.assets)
  device : Unchanged (g.device.withPairs ps) g'.device

namespace Gained

variable {g g' g'' : Gateway} {cs cs' : List Call} {ps qs : List BoundPair}

theorem refl (g : Gateway) : Gained g g [] [] := ⟨.refl g, .refl _, .refl _⟩

theorem fresh (h : Gained g g' cs ps) : Fresh g.device ps := h.passage.fresh_pairs h.ledger

theorem trans (h : Gained g g' cs ps) (h' : Gained g' g'' cs' qs) :
    Gained g g'' (cs ++ cs') (ps ++ qs) where
  passage := h.passage.trans h'.passage
  ledger := by
    rw [Call.created_append, Call.released_append, List.flatMap_append]
    refine (h.ledger.append h'.ledger).trans ?_
    rw [List.append_assoc, List.append_assoc]
    refine List.Perm.append_left _ ?_
    rw [← List.append_assoc, ← List.append_assoc]
    exact List.perm_append_comm.append_right _
  device := by
    rw [Device.withPairs_append]
    exact (h.device.withPairs qs).trans h'.device

theorem tell (h : Gained g g' cs ps) {n : Notice} (hn : n.metric? = none) :
    Gained g (g'.tell n) cs ps where
  passage := by
    have ht := h.passage.trans (.tell g' n)
    rw [hn, List.append_nil] at ht
    exact ht
  ledger := h.ledger
  device := h.device

/-- The first of the pairs is given back. -/
theorem release {p : BoundPair} (h : Gained g g' cs (p :: ps)) (hg : g.device.Numbered) :
    Gained g ((g'.destroyBuffer p.buffer).freeMemory p.memory)
      (cs ++ [.destroyBuffer p.buffer] ++ [.freeMemory p.memory]) ps where
  passage := (h.passage.trans (destroyBuffer_passage g' p.buffer)).trans
    (freeMemory_passage _ p.memory)
  ledger := by
    have hc : Call.created (cs ++ [.destroyBuffer p.buffer] ++ [.freeMemory p.memory]) =
        Call.created cs := by simp [Call.created, Call.created?]
    have hr : Call.released (cs ++ [.destroyBuffer p.buffer] ++ [.freeMemory p.memory]) =
        Call.released cs ++ p.assets := by
      simp [Call.released, Call.released?, BoundPair.assets]
    rw [hc, hr, List.append_assoc]
    exact h.ledger
  device := Device.unchanged_release hg h.fresh h.device

end Gained

/-! ## Memory for a buffer -/

variable {g g' : Gateway}

theorem allocate_cases {size typeIndex : Nat} {r : Except Status Handle}
    (ht : typeIndex < g.device.properties.count) (h : g.allocate size typeIndex = (r, g')) :
    (∃ s, r = .error s) ∧ g'.device = g.device ∨
      r = .ok (g.device.issued + 1) ∧ ∃ budget, g'.device =
        { g.device with
          issued := g.device.issued + 1
          allocationBudget := budget
          memories := g.device.memories.insert (g.device.issued + 1)
            ⟨.zeros size, typeIndex, false⟩ } := by
  rcases allocate_answer h with hd | ⟨hd, hs⟩
  · rcases g.device.allocate_of_type size ht with ⟨s, ha⟩ | ha
    · rw [ha, Prod.mk.injEq] at hd
      exact .inl ⟨⟨s, hd.1.symm⟩, hd.2.symm⟩
    · rw [ha, Prod.mk.injEq] at hd
      exact .inr ⟨hd.1.symm, _, hd.2.symm⟩
  · exact .inl ⟨hs, hd⟩

theorem bind_cases {buffer memory : Handle} {b : Buffer} {m : Memory} {r : Except Status Unit}
    (hb : g.device.buffers.get? buffer = some b) (hu : b.binding = none)
    (hm : g.device.memories.get? memory = some m) (h : g.bind buffer memory 0 = (r, g')) :
    (∃ s, r = .error s) ∧ g'.device = g.device ∨
      r = .ok () ∧ b.size ≤ m.contents.size ∧ g'.device =
        { g.device with buffers := g.device.buffers.modify buffer fun b =>
          { b with binding := some ⟨memory, 0⟩ } } := by
  rcases bind_answer h with hd | ⟨hd, hs⟩
  · rcases Device.bind_of_live hb hu hm with ⟨s, ha⟩ | ⟨hr, ha⟩
    · rw [ha, Prod.mk.injEq] at hd
      exact .inl ⟨⟨s, hd.1.symm⟩, hd.2.symm⟩
    · rw [ha, Prod.mk.injEq] at hd
      exact .inr ⟨hd.1.symm, hr, hd.2.symm⟩
  · exact .inl ⟨hs, hd⟩

/-- The buffer has got memory of its own, and nothing else is new. -/
structure Provided (g g' : Gateway) (buffer memory : Handle) (size : Nat) (cs : List Call)
    (room typeIndex : Nat) : Prop where
  passage : Passage g g' cs []
  ledger : (Call.created cs).Perm (Call.released cs ++ [.memory memory])
  fits : size ≤ room
  later : g.device.issued < memory
  device : Unchanged
    { g.device with
      buffers := g.device.buffers.modify buffer fun b => { b with binding := some ⟨memory, 0⟩ }
      memories := g.device.memories.insert memory ⟨.zeros room, typeIndex, false⟩ } g'.device

theorem provideMemory_spec {buffer : Handle} {need : BufferNeed} {b : Buffer}
    {r : Except TensorError Handle} (hg : g.device.Numbered)
    (hb : g.device.buffers.get? buffer = some b) (hu : b.binding = none)
    (h : g.provideMemory buffer need = (r, g')) :
    ∃ cs, match r with
      | .error _ => Gained g g' cs []
      | .ok memory => ∃ room typeIndex, Provided g g' buffer memory b.size cs room typeIndex := by
  unfold provideMemory at h
  cases hr : g.requirements buffer with
  | mk required g₁ =>
  have p₁ := requirements_passage hr
  have d₁ : g₁.device = g.device :=
    (requirements_device hr).trans (Device.requirements_of_live hb)
  rw [hr] at h
  dsimp only at h
  split at h
  · cases h
    exact ⟨_, p₁, .refl _, d₁ ▸ .refl _⟩
  next typeIndex hsel =>
  have ht : typeIndex < g₁.device.properties.count := by
    have hm := List.mem_of_find?_eq_some hsel
    exact Nat.lt_of_lt_of_le (List.mem_range.mp hm) (Nat.min_le_left ..)
  cases ha : g₁.allocate required.size typeIndex with
  | mk r₂ g₂ =>
  have p₂ := p₁.trans (allocate_passage ha)
  rw [ha] at h
  rcases allocate_cases ht ha with ⟨⟨s, rfl⟩, d₂⟩ | ⟨rfl, budget, d₂⟩
  · cases h
    exact ⟨_, p₂, .refl _, by rw [d₂, d₁]; exact .refl _⟩
  rw [d₁] at d₂ h p₂
  have hm₀ := hg.memory_absent (Nat.lt_succ_self g.device.issued)
  have hb₂ : g₂.device.buffers.get? buffer = some b := by rw [d₂]; exact hb
  have hm₂ : g₂.device.memories.get? (g.device.issued + 1) =
      some ⟨.zeros required.size, typeIndex, false⟩ := by
    rw [d₂, Table.get?_insert, if_pos rfl]
  cases hbd : g₂.bind buffer (g.device.issued + 1) 0 with
  | mk r₃ g₃ =>
  have p₃ := p₂.trans (bind_passage hbd)
  dsimp only at h
  rw [hbd] at h
  rcases bind_cases hb₂ hu hm₂ hbd with ⟨⟨s, rfl⟩, d₃⟩ | ⟨rfl, hroom, d₃⟩
  · cases h
    have hm₃ := hm₂
    rw [← d₃] at hm₃
    have hn : ∀ i b p, g₃.device.buffers.get? i = some b → b.binding = some p →
        p.memory ≠ g.device.issued + 1 := by
      intro i b p hi hp
      rw [d₃, d₂] at hi
      exact Nat.ne_of_lt (Nat.lt_succ_of_le (hg.bindings hi hp))
    have d₄ : (g₃.freeMemory (g.device.issued + 1)).device = _ :=
      Device.freeMemory_of_unbound hm₃ (Nat.succ_pos _) hn
    refine ⟨_, p₃.trans (freeMemory_passage g₃ _), .refl _, ?_⟩
    rw [d₄, d₃, d₂]
    exact ⟨rfl, rfl, Table.erase_insert _ hm₀, rfl, rfl, rfl⟩
  · cases h
    refine ⟨_, required.size, typeIndex, p₃.trans (.tell g₃ _), .refl _, hroom,
      Nat.lt_succ_self _, ?_⟩
    show Unchanged _ g₃.device
    rw [d₃, d₂]
    exact ⟨rfl, rfl, rfl, rfl, rfl, rfl⟩

/-! ## Buffers -/

/-- The device has a new buffer that has no memory. -/
structure Opened (g g' : Gateway) (size : Nat) (usage : Mask) : Prop where
  passage : Passage g g' [.createBuffer size usage (.ok (g.device.issued + 1))] []
  device : g'.device =
    { g.device with
      issued := g.device.issued + 1
      buffers := g.device.buffers.insert (g.device.issued + 1) ⟨size, usage, none⟩ }

namespace Opened

variable {g'' : Gateway} {cs : List Call} {size : Nat} {usage : Mask}

theorem buffer (h : Opened g g' size usage) :
    g'.device.buffers.get? (g.device.issued + 1) = some ⟨size, usage, none⟩ := by
  rw [h.device, Table.get?_insert, if_pos rfl]

/-- A buffer that got no memory is destroyed again. -/
theorem close (h : Opened g g' size usage) (hg : g.device.Numbered) (hn : Gained g' g'' cs []) :
    Gained g (g''.destroyBuffer (g.device.issued + 1))
      ([.createBuffer size usage (.ok (g.device.issued + 1))] ++ cs ++
        [.destroyBuffer (g.device.issued + 1)]) [] where
  passage := (h.passage.trans hn.passage).trans (destroyBuffer_passage g'' _)
  ledger := by
    have hl := hn.ledger
    rw [List.flatMap_nil, List.append_nil] at hl
    have hc : Call.created ([.createBuffer size usage (.ok (g.device.issued + 1))] ++ cs ++
        [.destroyBuffer (g.device.issued + 1)]) =
        .buffer (g.device.issued + 1) :: Call.created cs := by
      rw [Call.created_append, Call.created_append]
      exact List.append_nil _
    rw [hc, Call.released_append, List.flatMap_nil, List.append_nil]
    exact (hl.cons _).trans (List.perm_append_singleton _ _).symm
  device := by
    have hu := hn.device
    have hb : g''.device.buffers.get? (g.device.issued + 1) = some ⟨size, usage, none⟩ := by
      rw [hu.buffers]
      exact h.buffer
    have hd : (g''.destroyBuffer (g.device.issued + 1)).device = _ :=
      Device.destroyBuffer_of_live hb (Nat.succ_pos _)
    rw [h.device] at hu
    rw [hd]
    refine ⟨hu.properties, ?_, hu.memories, hu.commandBuffers, hu.hazards, hu.violations⟩
    dsimp only
    rw [hu.buffers]
    exact Table.erase_insert _ (hg.buffer_absent (Nat.lt_succ_self _))

/-- A buffer that got memory is a new pair with it. -/
theorem complete (h : Opened g g' size usage) (hg : g.device.Numbered) {memory : Handle}
    {room typeIndex : Nat}
    (hp : Provided g' g'' (g.device.issued + 1) memory size cs room typeIndex) :
    Gained g g'' ([.createBuffer size usage (.ok (g.device.issued + 1))] ++ cs)
      [⟨g.device.issued + 1, memory, size, usage, room, typeIndex⟩] where
  passage := h.passage.trans hp.passage
  ledger := by
    rw [Call.created_append, Call.released_append]
    refine (hp.ledger.cons _).trans ?_
    exact List.perm_middle.symm
  device := by
    have hu := hp.device
    rw [h.device] at hu
    refine ⟨hu.properties, ?_, hu.memories, hu.commandBuffers, hu.hazards, hu.violations⟩
    rw [hu.buffers]
    exact Table.modify_insert ⟨size, usage, none⟩
      (fun b => { b with binding := some ⟨memory, 0⟩ })
      (hg.buffer_absent (Nat.lt_succ_self _))

end Opened

theorem createBacked_spec {size : Nat} {need : BufferNeed} {r : Except TensorError BackedBuffer}
    (hg : g.device.Numbered) (h0 : 0 < size) (h : g.createBacked size need = (r, g')) :
    ∃ cs, match r with
      | .error _ => Gained g g' cs []
      | .ok b => ∃ p, Gained g g' cs [p] ∧ b = .owned p.buffer p.memory p.usage ∧
          p.usage = need.usage ∧ p.size = size ∧ size ≤ p.room := by
  unfold createBacked at h
  cases hc : g.createBuffer size need.usage with
  | mk r₁ g₁ =>
  have p₁ := createBuffer_passage hc
  rw [hc] at h
  rcases createBuffer_answer hc with hd | ⟨hd, s, rfl⟩
  · rw [Device.createBuffer_of_pos _ _ h0, Prod.mk.injEq] at hd
    obtain ⟨rfl, d₁⟩ := hd
    have hopened : Opened g g₁ size need.usage := ⟨p₁, d₁.symm⟩
    dsimp only at h
    cases hp : g₁.provideMemory (g.device.issued + 1) need with
    | mk r₂ g₂ =>
    rw [hp] at h
    obtain ⟨cs, hspec⟩ := provideMemory_spec (p₁.numbered hg) hopened.buffer rfl hp
    cases r₂ with
    | error e =>
      cases h
      exact ⟨_, hopened.close hg hspec⟩
    | ok memory =>
      cases h
      obtain ⟨room, typeIndex, hprovided⟩ := hspec
      exact ⟨_, _, hopened.complete hg hprovided, rfl, rfl, rfl, hprovided.fits⟩
  · cases h
    exact ⟨_, p₁, .refl _, by rw [hd]; exact .refl _⟩

/-- A backed buffer of a size that meets a need: the one that was lent, or else a new pair. -/
inductive Supplied (size : Nat) (need : BufferNeed) :
    Option LentBuffer → BackedBuffer → List BoundPair → Prop
  | lent (l : LentBuffer) : Supplied size need (some l) (.borrowed l) []
  | created (p : BoundPair) (usage : p.usage = need.usage) (exact : p.size = size)
      (fits : size ≤ p.room) : Supplied size need none (.owned p.buffer p.memory p.usage) [p]

theorem obtainBacked_spec {size : Nat} {need : BufferNeed} {lent : Option LentBuffer}
    {r : Except TensorError BackedBuffer} (hg : g.device.Numbered) (h0 : 0 < size)
    (h : g.obtainBacked size need lent = (r, g')) :
    ∃ cs, match r with
      | .error _ => Gained g g' cs []
      | .ok b => ∃ ps, Gained g g' cs ps ∧ Supplied size need lent b ps := by
  cases lent with
  | some l =>
    cases h
    exact ⟨[], [], .refl g, .lent l⟩
  | none =>
    obtain ⟨cs, hspec⟩ := createBacked_spec hg h0 h
    cases r with
    | error e => exact ⟨cs, hspec⟩
    | ok b =>
      obtain ⟨p, hp, rfl, hu, hs, hf⟩ := hspec
      exact ⟨cs, [p], hp, .created p hu hs hf⟩

/-- Releasing a backed buffer gives back the pair that supplied it, if one did. -/
theorem Gained.release_supplied {g g' : Gateway} {cs : List Call} {ps qs : List BoundPair}
    {size : Nat} {need : BufferNeed} {lent : Option LentBuffer} {b : BackedBuffer}
    (h : Gained g g' cs (ps ++ qs)) (hg : g.device.Numbered) (hs : Supplied size need lent b ps) :
    ∃ cs', Gained g (b.release g') cs' qs := by
  cases hs with
  | lent l => exact ⟨cs, h⟩
  | created p hu he hf => exact ⟨_, h.release hg⟩

/-- The pairs that supply the primary and the staging buffer of a backing. -/
structure Backed (kind : Placement) (size : Nat) (primary staging : Option LentBuffer)
    (b : Backing) (ps qs : List BoundPair) : Prop where
  primary : Supplied size kind.needs.primary primary b.primary ps
  staging : match kind.needs.staging with
    | some need => ∃ s, b.staging = some s ∧ Supplied size need staging s qs
    | none => b.staging = none ∧ qs = []

theorem Gained.release_backed {g g' : Gateway} {cs : List Call} {ps qs : List BoundPair}
    {kind : Placement} {size : Nat} {primary staging : Option LentBuffer} {b : Backing}
    (h : Gained g g' cs (ps ++ qs)) (hg : g.device.Numbered)
    (hb : Backed kind size primary staging b ps qs) : ∃ cs', Gained g (b.release g') cs' [] := by
  obtain ⟨cs₁, h₁⟩ := h.release_supplied hg hb.primary
  have hs := hb.staging
  unfold Backing.release
  cases hn : kind.needs.staging with
  | none =>
    rw [hn] at hs
    obtain ⟨hs, rfl⟩ := hs
    rw [hs]
    exact ⟨cs₁, h₁⟩
  | some need =>
    rw [hn] at hs
    obtain ⟨s, hs, hq⟩ := hs
    rw [hs]
    rw [← List.append_nil qs] at h₁
    exact h₁.release_supplied hg hq

theorem obtainBacking_spec {kind : Placement} {size : Nat} {primary staging : Option LentBuffer}
    {r : Except TensorError Backing} (hg : g.device.Numbered) (h0 : 0 < size)
    (h : g.obtainBacking kind size primary staging = (r, g')) :
    ∃ cs, match r with
      | .error _ => Gained g g' cs []
      | .ok b => ∃ ps qs, Gained g g' cs (ps ++ qs) ∧ Backed kind size primary staging b ps qs := by
  unfold obtainBacking at h
  split at h
  · cases h
    exact ⟨[], .refl g⟩
  cases ho : g.obtainBacked size kind.needs.primary primary with
  | mk r₁ g₁ =>
  rw [ho] at h
  obtain ⟨cs₁, h₁⟩ := obtainBacked_spec hg h0 ho
  cases r₁ with
  | error e =>
    cases h
    exact ⟨cs₁, h₁⟩
  | ok first =>
  obtain ⟨ps, h₁, hs₁⟩ := h₁
  dsimp only at h
  split at h
  · next hn =>
    cases h
    refine ⟨cs₁, ps, [], (List.append_nil ps).symm ▸ h₁, hs₁, ?_⟩
    rw [hn]
    exact ⟨rfl, rfl⟩
  next need hn =>
  cases ho₂ : g₁.obtainBacked size need staging with
  | mk r₂ g₂ =>
  rw [ho₂] at h
  obtain ⟨cs₂, h₂⟩ := obtainBacked_spec (h₁.passage.numbered hg) h0 ho₂
  cases r₂ with
  | error e =>
    cases h
    exact (h₁.trans h₂).release_supplied hg hs₁
  | ok second =>
    cases h
    obtain ⟨qs, h₂, hs₂⟩ := h₂
    refine ⟨cs₁ ++ cs₂, ps, qs, h₁.trans h₂, hs₁, ?_⟩
    rw [hn]
    exact ⟨second, rfl, hs₂⟩

end TensorMemory.Gateway
