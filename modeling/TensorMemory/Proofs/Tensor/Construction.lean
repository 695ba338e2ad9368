import TensorMemory.Proofs.Tensor.Backing
import TensorMemory.Tensor.Lifecycle

/-!
What building a tensor does to the device. A construction that succeeds adds the pairs it created
and maps one memory; one that fails, at whichever call, has given everything back
(`failed_construction`).
-/

namespace TensorMemory

/-- What the memory of a buffer is filled with when it is mapped. -/
def BackedBuffer.fill (b : BackedBuffer) (size : Nat) : Option Block → Option Block
  | some data => some data
  | none => if b.memory.isOwned then some (.zeros size) else none

/-- A memory that gets mapped and has a block written over its bytes. -/
def Memory.mapFilled (m : Memory) (offset : Nat) (fill : Option Block) : Memory :=
  { m with
    mapped := true
    contents := (fill.map (m.contents.overwrite offset)).getD m.contents }

/-- The device with a memory mapped and filled. -/
def Device.mapFilled (d : Device) (place : Place) (fill : Option Block) : Device :=
  { d with memories := d.memories.modify place.memory fun m => m.mapFilled place.offset fill }

theorem Device.Unchanged.mapFilled {d d' : Device} (h : Unchanged d d') (place : Place)
    (fill : Option Block) : Unchanged (d.mapFilled place fill) (d'.mapFilled place fill) := by
  refine ⟨h.properties, h.buffers, ?_, h.commandBuffers, h.hazards, h.violations⟩
  rw [Device.mapFilled, Device.mapFilled, h.memories]

/-- The metric event that announces new resources. -/
def allocatedEvent (kind : Placement) (dtype : ElementType) (size : Nat) (backing : Backing) :
    MetricEvent :=
  .allocated kind.name dtype.name (.ofNat size)
    (.ofNat (backing.ownedBytes kind false (size * dtype.width)))
    (.ofNat (backing.ownedBytes kind true (size * dtype.width))) (.ofNat backing.ownedCount)

namespace Gateway

open Device (Unchanged)

variable {g g' : Gateway}

/-! ## Mapping -/

/-- The memory of a buffer is mapped and filled, and nothing else happened. -/
structure Mapped (g g' : Gateway) (b : BackedBuffer) (size : Nat) (data : Option Block)
    (place : Place) (cs : List Call) : Prop where
  passage : Passage g g' cs []
  created : Call.created cs = []
  released : Call.released cs = []
  target : place = ⟨b.memory.handle, g.faults.mapShift⟩
  memory : ∃ m, g.device.memories.get? place.memory = some m ∧ m.mapped = false ∧
    place.offset + size ≤ m.contents.size
  device : g'.device = g.device.mapFilled place (b.fill size data)

/-- A mapping that is taken back at once leaves the device as it was. -/
theorem unmap_map {d d' : Device} {memory : Handle} {offset size : Nat} {place : Place}
    (h : d.map memory offset size = (.ok place, d')) : Unchanged d (d'.unmap memory) := by
  obtain ⟨-, ⟨m, hm, hf, -⟩, rfl⟩ := Device.map_ok h
  have hm' : (d.memories.modify memory fun m => { m with mapped := true }).get? memory =
      some { m with mapped := true } := by
    rw [Table.get?_modify, if_pos rfl, hm]
    rfl
  rw [Device.unmap_of_mapped hm' rfl]
  refine ⟨rfl, rfl, ?_, rfl, rfl, rfl⟩
  dsimp only
  rw [Table.modify_modify]
  apply Table.modify_eq_self
  intro v hv
  rw [hm] at hv
  cases hv
  obtain ⟨contents, typeIndex, mapped⟩ := m
  cases hf
  rfl

theorem mapAndFill_spec {b : BackedBuffer} {size : Nat} {data : Option Block}
    {r : Except TensorError Place} (hlt : size < sizeLimit)
    (h : g.mapAndFill b size data = (r, g')) :
    ∃ cs, match r with
      | .error _ => Gained g g' cs []
      | .ok place => Mapped g g' b size data place cs := by
  unfold mapAndFill at h
  dsimp only at h
  cases hm : g.map b.memory.handle 0 size with
  | mk r₁ g₁ =>
  have p₁ := map_passage hm
  rw [hm] at h
  have hw : size ≠ wholeSize := Nat.ne_of_lt (Nat.lt_trans hlt (by decide))
  rcases map_answer hm with ⟨hd, s, rfl⟩ | ⟨shift, place, hd, rfl | ⟨rfl, rfl⟩⟩
  · cases h
    exact ⟨_, p₁, .refl _, by rw [hd]; exact .refl _⟩
  · cases h
    exact ⟨_, p₁.trans (unmap_passage g₁ _), .refl _, unmap_map hd⟩
  · obtain ⟨rfl, ⟨m, hmem, hf, hb⟩, hd⟩ := Device.map_ok hd
    rw [Nat.zero_add] at hb h
    have hmemory : ∃ m, g.device.memories.get? b.memory.handle = some m ∧ m.mapped = false ∧
        g.faults.mapShift + size ≤ m.contents.size := ⟨m, hmem, hf, hb hw⟩
    cases data with
    | some data =>
      cases h
      refine ⟨_, p₁.trans (.store g₁ _ _), rfl, rfl, rfl, hmemory, ?_⟩
      show g₁.device.store _ data = _
      rw [hd, Device.store, Table.modify_modify]
      rfl
    | none =>
      dsimp only at h
      split at h
      · next ho =>
        cases h
        refine ⟨_, p₁.trans (.store g₁ _ _), rfl, rfl, rfl, hmemory, ?_⟩
        show g₁.device.store _ (.zeros size) = _
        rw [hd, Device.store, Table.modify_modify, BackedBuffer.fill, if_pos ho]
        rfl
      · next ho =>
        cases h
        refine ⟨_, p₁, rfl, rfl, rfl, hmemory, ?_⟩
        rw [hd, BackedBuffer.fill, if_neg ho]
        rfl

/-! ## All resources of a tensor -/

structure Furnished (g g' : Gateway) (kind : Placement) (dtype : ElementType) (size : Nat)
    (data : Option Block) (primary staging : Option LentBuffer) (r : Resources) (cs : List Call)
    (ps qs : List BoundPair) : Prop where
  passage : Passage g g' cs [allocatedEvent kind dtype size r.backing]
  ledger : (Call.created cs).Perm (Call.released cs ++ (ps ++ qs).flatMap BoundPair.assets)
  backed : Backed kind (size * dtype.width) primary staging r.backing ps qs
  device : match r.backing.hostSide kind with
    | none => r.mapping = none ∧ Unchanged (g.device.withPairs (ps ++ qs)) g'.device
    | some b => ∃ m, r.mapping = some ⟨b.memory.handle, g.faults.mapShift⟩ ∧
        (g.device.withPairs (ps ++ qs)).memories.get? b.memory.handle = some m ∧
        m.mapped = false ∧ g.faults.mapShift + size * dtype.width ≤ m.contents.size ∧
        Unchanged ((g.device.withPairs (ps ++ qs)).mapFilled ⟨b.memory.handle, g.faults.mapShift⟩
          (b.fill (size * dtype.width) data)) g'.device

theorem furnish_spec {kind : Placement} {dtype : ElementType} {size : Nat} {data : Option Block}
    {primary staging : Option LentBuffer} {r : Except TensorError Resources}
    (hg : g.device.Numbered) (h0 : 0 < size * dtype.width) (hlt : size * dtype.width < sizeLimit)
    (h : g.furnish kind dtype size data primary staging = (r, g')) :
    ∃ cs, match r with
      | .error _ => Gained g g' cs []
      | .ok r => ∃ ps qs, Furnished g g' kind dtype size data primary staging r cs ps qs := by
  unfold furnish at h
  dsimp only at h
  cases ho : g.obtainBacking kind (size * dtype.width) primary staging with
  | mk r₁ g₁ =>
  rw [ho] at h
  obtain ⟨cs₁, h₁⟩ := obtainBacking_spec hg h0 ho
  cases r₁ with
  | error e =>
    cases h
    exact ⟨cs₁, h₁⟩
  | ok backing =>
  obtain ⟨ps, qs, h₁, hb⟩ := h₁
  dsimp only at h
  split at h
  · next hside =>
    cases h
    have hskip : Gained g (if data.isSome = true then
        g₁.tell (.debug "vulkanic::tensor" "storage tensor skips initial host upload"
          [("kind", .plain kind.name)]) else g₁) cs₁ (ps ++ qs) := by
      split
      · exact h₁.tell rfl
      · exact h₁
    refine ⟨cs₁ ++ [] ++ [], ps, qs, (hskip.passage.trans (.tell _ _)).trans (.tell _ _), ?_, hb,
      ?_⟩
    · rw [List.append_nil, List.append_nil]
      exact hskip.ledger
    · dsimp only
      rw [hside]
      exact ⟨rfl, hskip.device⟩
  next b hside =>
  cases hm : g₁.mapAndFill b (size * dtype.width) data with
  | mk r₂ g₂ =>
  rw [hm] at h
  obtain ⟨cs₂, h₂⟩ := mapAndFill_spec hlt hm
  cases r₂ with
  | error e =>
    cases h
    have h₃ := h₁.trans h₂
    rw [List.append_nil] at h₃
    exact h₃.release_backed hg hb
  | ok place =>
    cases h
    refine ⟨cs₁ ++ cs₂ ++ [] ++ [], ps, qs,
      ((h₁.passage.trans h₂.passage).trans (.tell _ _)).trans (.tell _ _), ?_, hb, ?_⟩
    · rw [List.append_nil, List.append_nil, Call.created_append, Call.released_append, h₂.created,
        h₂.released, List.append_nil, List.append_nil]
      exact h₁.ledger
    · dsimp only
      rw [hside]
      obtain ⟨m, hm, hf, hr⟩ := h₂.memory
      have hd := h₂.device
      rw [h₂.target, h₁.passage.faults] at hm hr hd
      rw [h₁.device.memories] at hm
      refine ⟨m, by rw [h₂.target, h₁.passage.faults], hm, hf, hr, ?_⟩
      show Unchanged _ g₂.device
      rw [hd]
      exact h₁.device.mapFilled _ _

end Gateway

/-! ## Building -/

theorem checkLayout_ok {dtype : ElementType} {dataLength : Option Nat} {size elementSize n : Nat}
    (h : checkLayout dtype dataLength size elementSize = .ok n) :
    n = size * dtype.width ∧ 0 < n ∧ n < sizeLimit ∧ ∀ l ∈ dataLength, l = n := by
  unfold checkLayout at h
  split at h
  · cases h
  next he =>
  rw [Decidable.not_not.mp he] at h
  cases hb : byteSizeOf size dtype.width with
  | error e =>
    rw [hb] at h
    cases h
  | ok byteSize =>
  rw [hb] at h
  unfold byteSizeOf at hb
  split at hb
  · cases hb
  next hs =>
  split at hb
  · next hlt =>
    cases hb
    have h0 := Nat.mul_pos (Nat.pos_of_ne_zero hs) dtype.width_pos
    cases dataLength with
    | none =>
      cases h
      exact ⟨rfl, h0, hlt, fun l hl => by cases hl⟩
    | some l =>
      dsimp only at h
      split at h
      · next hl =>
        cases h
        exact ⟨rfl, h0, hlt, fun l' hl' => (Option.some.inj hl').symm.trans hl⟩
      · cases h
  · cases hb

namespace TensorPlan

open Device (Unchanged)

variable {g g' : Gateway} {plan : TensorPlan}

theorem layout_ok {n byteSize : Nat} (h : plan.layout = .ok (n, byteSize)) :
    byteSize = n * plan.dtype.width ∧ 0 < byteSize ∧ byteSize < sizeLimit ∧
      ∀ data ∈ plan.data, data.size = byteSize := by
  unfold layout at h
  cases hc : plan.elementCount with
  | error e =>
    rw [hc] at h
    cases h
  | ok m =>
  rw [hc] at h
  dsimp only at h
  cases hl : checkLayout plan.dtype (plan.data.map Block.size) m
      (plan.elementSize.getD plan.dtype.width) with
  | error e =>
    rw [hl] at h
    cases h
  | ok k =>
    rw [hl] at h
    cases h
    obtain ⟨hn, h0, hlt, hd⟩ := checkLayout_ok hl
    refine ⟨hn, h0, hlt, ?_⟩
    intro data hdata
    exact hd _ (Option.mem_map_of_mem _ hdata)

/-- What a successful build answers and does; what a failed one does. -/
theorem build_spec {r : Except TensorError Tensor} (hg : g.device.Numbered)
    (h : plan.build g = (r, g')) :
    ∃ cs, match r with
      | .error _ => Gateway.Gained g g' cs []
      | .ok t => ∃ n resources ps qs, t = ⟨plan.kind, plan.dtype, n, .live resources⟩ ∧
          (∀ data ∈ plan.data, data.size = n * plan.dtype.width) ∧
          0 < n * plan.dtype.width ∧ n * plan.dtype.width < sizeLimit ∧
          Gateway.Furnished g g' plan.kind plan.dtype n plan.data plan.primary plan.staging
            resources cs ps qs := by
  unfold build at h
  cases hl : plan.layout with
  | error e =>
    rw [hl] at h
    cases h
    exact ⟨[], .refl g⟩
  | ok sizes =>
  obtain ⟨n, byteSize⟩ := sizes
  rw [hl] at h
  obtain ⟨rfl, h0, hlt, hdata⟩ := layout_ok hl
  dsimp only at h
  cases hf : g.furnish plan.kind plan.dtype n plan.data plan.primary plan.staging with
  | mk r₁ g₁ =>
  rw [hf] at h
  obtain ⟨cs, h₁⟩ := Gateway.furnish_spec hg h0 hlt hf
  cases r₁ with
  | error e =>
    cases h
    exact ⟨cs, h₁⟩
  | ok resources =>
    cases h
    obtain ⟨ps, qs, hf⟩ := h₁
    have hp := hf.passage.trans (.tell g₁ (plan.completed (n * plan.dtype.width)))
    rw [List.append_nil] at hp
    exact ⟨cs, n, resources, ps, qs, rfl, hdata, h0, hlt, hp, hf.ledger, hf.backed, hf.device⟩

/-- A tensor is as large as its plan. -/
theorem build_layout {t : Tensor} (h : plan.build g = (.ok t, g')) :
    ∃ byteSize, plan.layout = .ok (t.size, byteSize) := by
  unfold build at h
  split at h
  · cases h
  next size byteSize hl =>
  split at h
  · cases h
  cases h
  exact ⟨byteSize, hl⟩

end TensorPlan

namespace Tensor

/-- The tensor that a rebuild leaves when the new resources could be had or not. -/
def rebuilt (t : Tensor) (size : Nat) : Except TensorError Resources → Tensor
  | .ok resources => { t with size, residence := .live resources }
  | .error _ => { t with size, residence := .vacant }

/-- A rebuild is refused before it begins, or it releases what the tensor holds and furnishes it
anew. -/
theorem rebuild_cases (t : Tensor) (g : Gateway) (data : Block) (size elementSize : Nat) :
    (∃ e, (t.isAttached = false ∨ ∃ e', checkLayout t.dtype (some data.size) size elementSize =
        .error e') ∧ t.rebuild g data size elementSize = (.error e, t, g)) ∨
      ∃ notice r g', notice.metric? = none ∧ t.isAttached = true ∧
        checkLayout t.dtype (some data.size) size elementSize = .ok (size * t.dtype.width) ∧
        ((t.releaseHoldings g).tell notice).furnish t.kind t.dtype size (some data) none none =
          (r, g') ∧
        t.rebuild g data size elementSize = (r.map fun _ => (), t.rebuilt size r, g') := by
  unfold rebuild
  split
  · next ha => exact .inl ⟨_, .inl (by simpa using ha), rfl⟩
  next ha =>
  split
  · next e he => exact .inl ⟨_, .inr ⟨e, he⟩, rfl⟩
  next n hl =>
  obtain ⟨rfl, -⟩ := checkLayout_ok hl
  refine .inr ⟨.rebuilding t.kind t.releaseTally.freed size, ?_⟩
  cases hf : ((t.releaseHoldings g).tell (.rebuilding t.kind t.releaseTally.freed size)).furnish
    t.kind t.dtype size (some data) none none with
  | mk r g' =>
  refine ⟨r, g', rfl, by simpa using ha, hl, rfl, ?_⟩
  dsimp only
  rw [hf]
  cases r <;> rfl

end Tensor

namespace Gateway

/-- Nothing there is has changed, and no metric event was announced. -/
def Kept (g g' : Gateway) : Prop :=
  Device.Unchanged g.device g'.device ∧ metricEvents g'.notices = metricEvents g.notices

theorem Gained.kept {g g' : Gateway} {cs : List Call} (h : Gained g g' cs []) : Kept g g' :=
  ⟨h.device, h.passage.metrics.trans (List.append_nil _)⟩

end Gateway

/-- A construction that fails, by a bad layout or at any of its calls, leaves the device as it was
and announces no metric event. -/
theorem failed_construction {g g' : Gateway} {e : TensorError} (hg : g.device.Reachable) :
    (∀ plan : TensorPlan, plan.build g = (.error e, g') → Gateway.Kept g g') ∧
    (∀ data size elementSize dtype kind,
      Tensor.create g data size elementSize dtype kind = (.error e, g') → Gateway.Kept g g') ∧
    (∀ (dtype : ElementType) (xs : List (Element dtype)) kind,
      Tensor.ofElements g xs kind = (.error e, g') → Gateway.Kept g g') := by
  have hbuild (plan : TensorPlan) (h : plan.build g = (.error e, g')) : Gateway.Kept g g' := by
    obtain ⟨cs, hgained⟩ := TensorPlan.build_spec hg.numbered h
    exact hgained.kept
  refine ⟨hbuild, fun data size elementSize dtype kind => hbuild _, ?_⟩
  intro dtype xs kind h
  unfold Tensor.ofElements at h
  split at h
  · exact hbuild _ h
  · cases h
    exact (Gateway.Gained.refl g).kept

/-- A tensor that borrows its staging buffer, where the mapping comes back without an address: the
mapping of the borrowed memory is undone, and the new primary buffer released. -/
def nullMapping : Gateway :=
  .ofDevice ((Device.ofTypes [MemoryFlags.deviceLocal, Placement.hostCoherent]).run
    [.createBound 16 Placement.transfer Placement.hostCoherent])
    { map := fun _ => some .null }

def stagedPlan : TensorPlan :=
  { dtype := .float, kind := .device, elements := some 4, staging := some ⟨1, 2⟩ }

theorem failed_construction_nullMapping :
    (stagedPlan.build nullMapping).1 = .error (.backend "vkMapMemory" .memoryMapFailed) ∧
      Gateway.Kept nullMapping (stagedPlan.build nullMapping).2 := by
  have h : (stagedPlan.build nullMapping).1 = .error (.backend "vkMapMemory" .memoryMapFailed) := by
    rfl
  exact ⟨h, (failed_construction ⟨_, _, rfl⟩).1 stagedPlan (Prod.ext h rfl)⟩

end TensorMemory
