import TensorMemory.Proofs.Device.Mapped
import TensorMemory.Proofs.Tensor.Soundness

/-!
Which memories are mapped. A device knows of a memory only that it is mapped, not for whom. What a
tensor gives back is not mapped afterwards (`isMapped_releaseHoldings`), what it is furnished with
is mapped in addition and was not before (`Furnished.isMapped`, `Furnished.unmapped_before`), and a
memory that was given back can be mapped again (`mappable_releaseHoldings`,
`TensorPlan.build_mappable`).
-/

namespace TensorMemory

/-! ## Mapped tensors -/

/-- A tensor that has a mapping has it to the memory that it unmaps when it gives back what it
holds, and that memory is live, mapped, and large enough from the place on. -/
structure Tensor.Mounted (t : Tensor) (d : Device) : Prop where
  mapped : t.mapped = (t.mapping?.map fun p => Asset.memory p.memory).toList
  covers : ∀ p, t.mapping? = some p → ∃ m, d.memories.get? p.memory = some m ∧
    m.mapped = true ∧ p.offset + t.byteSize ≤ m.contents.size

namespace Tensor

variable {t : Tensor} {d d' : Device}

theorem Mounted.of_sound {shift : Nat} (h : t.Sound shift d) : t.Mounted d := by
  cases hr : t.resources? with
  | none =>
    refine ⟨by simp [Tensor.mapped, mapping?, hr], fun p hp => ?_⟩
    simp [mapping?, hr] at hp
  | some r =>
    have hs := h r (resources?_eq_some.mp hr)
    have hmapping : t.mapping? = r.mapping := by simp [mapping?, hr]
    refine ⟨?_, fun p hp => ?_⟩
    · rw [mapped_of_live (resources?_eq_some.mp hr), Resources.mapped_eq hs, hmapping, hs.mapping,
        Option.map_map]
      rfl
    · rw [hmapping, hs.mapping] at hp
      obtain ⟨b, hb, rfl⟩ := Option.map_eq_some_iff.mp hp
      exact hs.mapped b hb

theorem Mounted.mem_mapped {p : Place} (h : t.Mounted d) (hp : t.mapping? = some p) :
    .memory p.memory ∈ t.mapped := by
  rw [h.mapped, hp]
  exact List.mem_singleton.mpr rfl

theorem Mounted.mapping {i : Handle} (h : t.Mounted d) (hi : .memory i ∈ t.mapped) :
    ∃ p, t.mapping? = some p ∧ p.memory = i := by
  rw [h.mapped, Option.mem_toList, Option.map_eq_some_iff] at hi
  obtain ⟨p, hp, he⟩ := hi
  exact ⟨p, hp, Asset.memory.inj he⟩

theorem Mounted.isMapped {i : Handle} (h : t.Mounted d) (hi : .memory i ∈ t.mapped) :
    d.isMapped i = true := by
  obtain ⟨p, hp, rfl⟩ := h.mapping hi
  obtain ⟨m, hm, hmapped, -⟩ := h.covers p hp
  exact Device.isMapped_iff.mpr ⟨m, hm, hmapped⟩

/-- A tensor stays mapped while its memory keeps its shape. -/
theorem Mounted.keep (h : t.Mounted d) (hs : ∀ i, .memory i ∈ t.mapped →
    (d'.memories.get? i).map Memory.shape = (d.memories.get? i).map Memory.shape) :
    t.Mounted d' := by
  refine ⟨h.mapped, fun p hp => ?_⟩
  obtain ⟨m, hm, hmapped, hroom⟩ := h.covers p hp
  have hshape := hs _ (h.mem_mapped hp)
  rw [hm, Option.map_some] at hshape
  obtain ⟨m', hm', he⟩ := Option.map_eq_some_iff.mp hshape
  simp only [Memory.shape, Prod.mk.injEq] at he
  exact ⟨m', hm', he.2.2.trans hmapped, he.1 ▸ hroom⟩

end Tensor

theorem Gateway.Exchange.coherent {g g' : Gateway} {cs : List Call}
    {taken gone new : List Asset} (h : Exchange g g' cs taken gone new)
    (hg : g.device.Coherent) : g'.device.Coherent := by
  obtain ⟨ms, hp⟩ := h.passage
  obtain ⟨ops, hops⟩ := hp.device
  rw [hops]
  exact hg.run ops

/-! ## Giving back -/

theorem Resources.unmapHost_cases (r : Resources) (kind : Placement) (g : Gateway) :
    r.mapped kind = [] ∧ r.unmapHost kind g = g ∨
      ∃ i, r.mapped kind = [.memory i] ∧ r.unmapHost kind g = g.unmap i := by
  unfold Resources.mapped Resources.unmapHost
  cases r.mapping with
  | none => exact .inl ⟨rfl, rfl⟩
  | some p =>
    cases r.backing.hostSide kind with
    | none => exact .inl ⟨rfl, rfl⟩
    | some b => exact .inr ⟨_, rfl, rfl⟩

namespace Tensor

variable {t : Tensor} {g : Gateway} {i : Handle}

/-- What is mapped and not owned is unmapped first, and keeps the shape it has then. -/
theorem shape_releaseHoldings (hg : g.device.Numbered) (hi : .memory i ∈ t.mapped)
    (hn : .memory i ∉ t.assets) (hle : i ≤ g.device.issued) :
    ((t.releaseHoldings g).device.memories.get? i).map Memory.shape =
      ((g.device.unmap i).memories.get? i).map Memory.shape := by
  cases hr : t.resources? with
  | none => simp [mapped, hr] at hi
  | some r =>
    have hlive := resources?_eq_some.mp hr
    rw [mapped_of_live hlive] at hi
    rw [assets_of_live hlive] at hn
    rw [releaseHoldings, hlive]
    dsimp only
    rw [Resources.release_eq]
    rcases r.unmapHost_cases t.kind g with ⟨he, -⟩ | ⟨j, he, hu⟩
    · rw [he] at hi
      cases hi
    rw [he, List.mem_singleton] at hi
    cases hi
    have hp := Gateway.unmap_passage g i
    obtain ⟨cs, hx⟩ := r.backing.release_exchange (g := g.unmap i) (hp.numbered hg)
    rw [hu]
    exact hx.frame.memories i (Nat.le_trans hle hp.issued_le) hn

/-- What a tensor gives back is not mapped afterwards, and everything else is as it was. -/
theorem isMapped_releaseHoldings (hg : g.device.Numbered) (t : Tensor) (i : Handle) :
    (t.releaseHoldings g).device.isMapped i = true ↔
      g.device.isMapped i = true ∧ .memory i ∉ t.mapped ∧ .memory i ∉ t.assets := by
  obtain ⟨cs, hx⟩ := t.releaseHoldings_exchange hg
  have hkept (hle : i ≤ g.device.issued) (hn : .memory i ∉ t.mapped ++ t.assets) :
      (t.releaseHoldings g).device.isMapped i = g.device.isMapped i :=
    Device.isMapped_of_shape (hx.frame.memories i hle hn)
  constructor
  · intro h
    obtain ⟨hlive, hassets⟩ := ((hx.live _).mp (Device.live_of_mapped h)).resolve_right
      List.not_mem_nil
    have hle := (hg.le_issued hlive).2
    have hmapped : .memory i ∉ t.mapped := by
      intro hm
      rw [Device.isMapped_of_shape (shape_releaseHoldings hg hm hassets hle),
        Device.isMapped_unmap] at h
      cases h
    refine ⟨?_, hmapped, hassets⟩
    rwa [← hkept hle fun hm => (List.mem_append.mp hm).elim hmapped hassets]
  · rintro ⟨h, hmapped, hassets⟩
    rwa [hkept (hg.le_issued (Device.live_of_mapped h)).2
      fun hm => (List.mem_append.mp hm).elim hmapped hassets]

/-- Borrowed memory that a tensor had mapped can be mapped again once it is given back. -/
theorem mappable_releaseHoldings (hg : g.device.Coherent) (ht : t.Mounted g.device) {p : Place}
    {m : Memory} (hp : t.mapping? = some p) (hm : g.device.memories.get? p.memory = some m)
    (hn : .memory p.memory ∉ t.assets) :
    (t.releaseHoldings g).device.Mappable p.memory m.contents.size := by
  obtain ⟨m', hm', hmapped, -⟩ := ht.covers p hp
  cases hm.symm.trans hm'
  obtain ⟨cs, hx⟩ := t.releaseHoldings_exchange hg.toNumbered
  refine ⟨m.typeIndex, ?_, ?_⟩
  · rw [shape_releaseHoldings hg.toNumbered (ht.mem_mapped hp) hn (hg.memories hm).2,
      Device.unmap_of_mapped hm hmapped, Table.get?_modify, if_pos rfl, hm]
    rfl
  · rw [Device.isVisible, hx.frame.properties]
    exact hg.visible hm hmapped

end Tensor

/-! ## Taking in -/

theorem Device.isMapped_mapFilled {d : Device} {place : Place} {i : Handle} {m : Memory}
    (fill : Option Block) (h : d.memories.get? place.memory = some m) :
    (d.mapFilled place fill).isMapped i = true ↔ d.isMapped i = true ∨ i = place.memory := by
  rw [isMapped, mapFilled, Table.get?_modify]
  by_cases hi : i = place.memory
  · rw [if_pos hi, hi, h]
    exact iff_of_true rfl (.inr rfl)
  · rw [if_neg hi]
    exact (or_iff_left hi).symm

namespace Gateway.Furnished

variable {g g' : Gateway} {kind : Placement} {dtype : ElementType} {size : Nat}
  {data : Option Block} {primary staging : Option LentBuffer} {r : Resources} {cs : List Call}
  {ps qs : List BoundPair}

/-- What is mapped afterwards was mapped before, or is mapped for the new resources. -/
theorem isMapped (h : Furnished g g' kind dtype size data primary staging r cs ps qs)
    (hg : g.device.Numbered) (i : Handle) : g'.device.isMapped i = true ↔
      g.device.isMapped i = true ∨ .memory i ∈ r.mapped kind := by
  have hfresh := h.passage.fresh_pairs h.ledger
  have hd := h.device
  unfold Resources.mapped
  cases hs : r.backing.hostSide kind with
  | none =>
    rw [hs] at hd
    rw [hd.1, hd.2.isMapped, Device.isMapped_withPairs hg hfresh]
    exact (or_iff_left List.not_mem_nil).symm
  | some b =>
    rw [hs] at hd
    obtain ⟨m, hmapping, hm, -, -, hu⟩ := hd
    rw [hmapping, hu.isMapped, Device.isMapped_mapFilled _ hm,
      Device.isMapped_withPairs hg hfresh]
    dsimp only
    rw [List.mem_singleton, Asset.memory.injEq]

/-- What gets mapped was not mapped. -/
theorem unmapped_before (h : Furnished g g' kind dtype size data primary staging r cs ps qs)
    (hg : g.device.Numbered) {i : Handle} (hi : .memory i ∈ r.mapped kind) :
    g.device.isMapped i = false := by
  have hfresh := h.passage.fresh_pairs h.ledger
  have hd := h.device
  unfold Resources.mapped at hi
  cases hs : r.backing.hostSide kind with
  | none =>
    rw [hs] at hi
    cases hm : r.mapping <;> rw [hm] at hi <;> cases hi
  | some b =>
    rw [hs] at hd hi
    obtain ⟨m, hmapping, hm, hf, -⟩ := hd
    rw [hmapping] at hi
    obtain rfl : i = b.memory.handle := by simpa using hi
    rw [← Device.isMapped_withPairs hg hfresh, Device.isMapped, hm]
    exact hf

theorem mounted (h : Furnished g g' kind dtype size data primary staging r cs ps qs)
    (hg : g.device.Numbered) : (⟨kind, dtype, size, .live r⟩ : Tensor).Mounted g'.device :=
  .of_sound fun r' hr' => by
    cases hr'
    exact h.sound hg

end Gateway.Furnished

/-! ## Mapping again -/

namespace Gateway

variable {g : Gateway} {i : Handle}

theorem map_mappable {room size : Nat} (h : g.device.Mappable i room)
    (hr : g.faults.mapShift + size ≤ room) (hw : size ≠ wholeSize)
    (hf : g.faults.map g.served.map = none) :
    ∃ g', g.map i 0 size = (.ok (some ⟨i, g.faults.mapShift⟩), g') := by
  obtain ⟨d, hd⟩ := h.map hr hw
  unfold map
  dsimp only
  rw [hf, Nat.zero_add]
  dsimp only
  rw [hd]
  exact ⟨_, rfl⟩

theorem mapAndFill_mappable {b : BackedBuffer} {room size : Nat}
    (h : g.device.Mappable b.memory.handle room) (hr : g.faults.mapShift + size ≤ room)
    (hlt : size < sizeLimit) (hf : g.faults.map g.served.map = none) (data : Option Block) :
    ∃ g', g.mapAndFill b size data = (.ok ⟨b.memory.handle, g.faults.mapShift⟩, g') := by
  have hw : size ≠ wholeSize := Nat.ne_of_lt (Nat.lt_trans hlt (by decide))
  obtain ⟨g', hm⟩ := map_mappable h hr hw hf
  unfold mapAndFill
  dsimp only
  rw [hm]
  cases data with
  | some data => exact ⟨_, rfl⟩
  | none =>
    dsimp only
    split <;> exact ⟨_, rfl⟩

end Gateway

/-- A plan whose buffers can be had, and whose host side can be mapped, is built. -/
theorem TensorPlan.build_mappable {plan : TensorPlan} {g g₁ : Gateway} {size bytes room : Nat}
    {backing : Backing} {b : BackedBuffer} (hg : g.device.Numbered)
    (hl : plan.layout = .ok (size, bytes))
    (ho : g.obtainBacking plan.kind bytes plan.primary plan.staging = (.ok backing, g₁))
    (hb : backing.hostSide plan.kind = some b) (h : g.device.Mappable b.memory.handle room)
    (hr : g.faults.mapShift + bytes ≤ room) (hf : g.faults.map g₁.served.map = none) :
    ∃ t g', plan.build g = (.ok t, g') ∧
      t.mapping? = some ⟨b.memory.handle, g.faults.mapShift⟩ := by
  obtain ⟨hbytes, h0, hlt, -⟩ := layout_ok hl
  obtain ⟨cs, ps, qs, hgained, -⟩ := Gateway.obtainBacking_spec hg h0 ho
  have hframe := hgained.exchange.frame
  have hfaults : g₁.faults = g.faults := hgained.passage.faults
  have hmappable : g₁.device.Mappable b.memory.handle room :=
    h.of_shape hframe.properties (hframe.memories _ (h.issued hg) List.not_mem_nil)
  rw [← hfaults] at hr hf ⊢
  obtain ⟨g₂, hm⟩ := Gateway.mapAndFill_mappable hmappable hr hlt hf plan.data
  unfold build
  rw [hl]
  dsimp only
  unfold Gateway.furnish
  dsimp only
  rw [← hbytes, ho]
  dsimp only
  rw [hb]
  dsimp only
  rw [hm]
  exact ⟨_, _, rfl, rfl⟩

/-- A rebuild that begins leaves borrowed memory that the tensor had mapped free to be mapped again,
whether or not the tensor gets new resources. -/
theorem Tensor.mappable_rebuild {t : Tensor} {g : Gateway} {p : Place} {m : Memory} {data : Block}
    {size elementSize bytes : Nat} (hg : g.device.Coherent) (ht : t.Mounted g.device)
    (hp : t.mapping? = some p) (hm : g.device.memories.get? p.memory = some m)
    (hn : .memory p.memory ∉ t.assets)
    (hl : checkLayout t.dtype (some data.size) size elementSize = .ok bytes) :
    (t.rebuild g data size elementSize).2.2.device.Mappable p.memory m.contents.size := by
  rcases rebuild_spec hg.toNumbered t data size elementSize with
    ⟨e, hrefused | ⟨e', hlayout⟩, -⟩ | ⟨g₀, cs, r, g', -, -, hx, hdevice, he, cs', hs⟩
  · simp [mapping?, resources?_of_detached (isAttached_eq_false.mp hrefused)] at hp
  · cases hl.symm.trans hlayout
  rw [he]
  have hfree : g₀.device.Mappable p.memory m.contents.size := by
    rw [hdevice]
    exact mappable_releaseHoldings hg ht hp hm hn
  have hg₀ := hx.numbered hg.toNumbered
  have hle := hfree.issued hg₀
  cases r with
  | error e =>
    have hframe := hs.exchange.frame
    exact hfree.of_shape hframe.properties (hframe.memories _ hle List.not_mem_nil)
  | ok resources =>
    obtain ⟨ps, qs, hf⟩ := hs
    have hframe := hf.exchange.frame
    refine hfree.of_shape hframe.properties (hframe.memories _ hle fun hmapped => ?_)
    -- the new resources are all created, and their handles are later
    have hloans : resources.backing.loans = [] := List.subset_nil.mp hf.backed.loans
    have hmem := resources.mapped_subset t.kind hmapped
    rw [hloans, List.append_nil] at hmem
    exact absurd hle (Nat.not_le.mpr (hf.later hmem).1)

end TensorMemory
