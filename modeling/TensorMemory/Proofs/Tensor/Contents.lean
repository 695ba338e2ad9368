import TensorMemory.Proofs.Tensor.Soundness

/-!
The bytes behind a tensor. A tensor has a buffer on the device's side and may have one on the
host's. What is in them once they are created is known to the byte (`Furnished.contents`), and
nothing that is done for one tensor touches the bytes of memory it does not hold, nor what waits in
a command buffer (`Spares`).
-/

namespace TensorMemory

namespace Block

theorem toBytes_slice_zeros {n room : Nat} (h : n ≤ room) :
    ((zeros room).slice 0 n).toBytes = List.replicate n 0 := by
  rw [toBytes_slice, toBytes_zeros, List.drop_zero, List.take_replicate, Nat.min_eq_left h]

/-- Bytes written over the start are read in front of what is left of the old ones. -/
theorem toBytes_slice_overwrite_start (b : Block) {chunk : Block} {n : Nat} (hc : chunk.size ≤ n)
    (hn : n ≤ b.size) : ((b.overwrite 0 chunk).slice 0 n).toBytes =
      chunk.toBytes ++ (b.slice 0 n).toBytes.drop chunk.size := by
  apply List.ext_getElem?
  intro i
  rw [toBytes_slice, List.drop_zero, toBytes_slice, List.drop_zero, List.getElem?_take,
    getElem?_toBytes_overwrite, List.getElem?_append, length_toBytes, List.getElem?_drop,
    List.getElem?_take]
  by_cases hi : i < chunk.size
  · rw [if_pos (by omega), if_pos (by omega), if_pos hi, Nat.sub_zero]
  · rw [if_neg hi, show chunk.size + (i - chunk.size) = i by omega]
    refine ite_congr rfl (fun _ => ?_) fun _ => rfl
    rw [if_neg (by omega)]

end Block

theorem Element.decode_congr {dtype : ElementType} {b b' : Block} (h : b.toBytes = b'.toBytes)
    (count : Nat) : decode dtype count b = decode dtype count b' := by
  refine List.map_congr_left fun i _ => ?_
  rw [nth, nth, Block.toBytes_slice, Block.toBytes_slice, h]

/-! ## Sides -/

inductive Side where
  | device
  | host
  deriving DecidableEq, Repr

/-- The side on which the host reads and writes. -/
def Placement.hostSide? : Placement → Option Side
  | device => some .host
  | host => some .device
  | storage => none

def Placement.need? (kind : Placement) : Side → Option BufferNeed
  | .device => some kind.needs.primary
  | .host => kind.needs.staging

/-- Both buffers of a tensor with a staging copy serve transfers either way. -/
theorem Placement.device_transfers (σ : Side) : ∃ need, Placement.device.need? σ = some need ∧
    need.usage.contains UsageFlags.transferSource = true ∧
      need.usage.contains UsageFlags.transferTarget = true := by
  cases σ with
  | device => exact ⟨_, rfl, by decide, by decide⟩
  | host => exact ⟨_, rfl, by decide, by decide⟩

/-- What is on a side of a new tensor: the data where the host writes it, and else zeros. -/
def Placement.fresh (kind : Placement) (size : Nat) (data : Option Block) (side : Side) : Bytes :=
  match data with
  | some data => if kind.hostSide? = some side then data.toBytes else List.replicate size 0
  | none => List.replicate size 0

theorem Placement.fresh_of_hidden {kind : Placement} {data : Option Block} {side : Side}
    (h : kind.hostSide? ≠ some side) (size : Nat) :
    kind.fresh size data side = List.replicate size 0 := by
  unfold fresh
  cases data with
  | none => rfl
  | some block => exact if_neg h

/-- The host's side starts with what its memory is filled with. -/
theorem Placement.fresh_of_hostSide {kind : Placement} {data : Option Block} {side : Side}
    {size room : Nat} {b : BackedBuffer} (h : kind.hostSide? = some side)
    (ho : b.memory.isOwned = true) (hdata : ∀ block ∈ data, block.size = size)
    (hroom : size ≤ room) (typeIndex : Nat) :
    ((((⟨.zeros room, typeIndex, false⟩ : Memory).mapFilled 0 (b.fill size data)).contents.slice 0
      size).toBytes) = kind.fresh size data side := by
  have hstart {block : Block} (hs : block.size = size) :
      (((Block.zeros room).overwrite 0 block).slice 0 size).toBytes = block.toBytes := by
    rw [← hs]
    refine Block.toBytes_slice_overwrite _ _ _ ?_
    rw [Nat.zero_add, hs]
    exact hroom
  unfold fresh BackedBuffer.fill
  cases data with
  | some block =>
    dsimp only
    rw [if_pos h]
    exact hstart (hdata block rfl)
  | none =>
    dsimp only
    rw [if_pos ho]
    exact (hstart rfl).trans (Block.toBytes_zeros _)

theorem BackedBuffer.buffer_mem_assets {b : BackedBuffer} (h : b.buffer.isOwned = true) :
    .buffer b.buffer.handle ∈ b.assets := by
  rw [assets, if_pos h]
  exact List.mem_append_left _ (List.mem_singleton.mpr rfl)

theorem BackedBuffer.memory_mem_assets {b : BackedBuffer} (h : b.memory.isOwned = true) :
    .memory b.memory.handle ∈ b.assets := by
  rw [assets, if_pos h]
  exact List.mem_append_right _ (List.mem_singleton.mpr rfl)

theorem BackedBuffer.owned_of_loans {b : BackedBuffer} (h : b.loans = []) :
    b.buffer.isOwned = true ∧ b.memory.isOwned = true := by
  unfold loans at h
  obtain ⟨hb, hm⟩ := List.append_eq_nil_iff.mp h
  refine ⟨?_, ?_⟩
  · cases ho : b.buffer.isOwned with
    | true => rfl
    | false =>
      rw [ho] at hb
      cases hb
  · cases ho : b.memory.isOwned with
    | true => rfl
    | false =>
      rw [ho] at hm
      cases hm

namespace Backing

def side (b : Backing) : Side → Option BackedBuffer
  | .device => some b.primary
  | .host => b.staging

variable {b : Backing} {x y : BackedBuffer} {σ τ : Side}

theorem hostSide_eq (b : Backing) (kind : Placement) :
    b.hostSide kind = kind.hostSide?.bind b.side := by cases kind <;> rfl

theorem side_mem (h : b.side σ = some x) : x ∈ b.buffers := by
  cases σ with
  | device =>
    cases h
    exact List.mem_cons_self ..
  | host => exact List.mem_cons_of_mem _ (Option.mem_toList.mpr h)

theorem owned_of_loans (hl : b.loans = []) (h : b.side σ = some x) :
    x.buffer.isOwned = true ∧ x.memory.isOwned = true :=
  BackedBuffer.owned_of_loans (List.flatMap_eq_nil_iff.mp hl x (side_mem h))

theorem memory_mem_assets (hl : b.loans = []) (h : b.side σ = some x) :
    .memory x.memory.handle ∈ x.assets :=
  BackedBuffer.memory_mem_assets (owned_of_loans hl h).2

theorem buffer_mem_assets (hl : b.loans = []) (h : b.side σ = some x) :
    .buffer x.buffer.handle ∈ x.assets :=
  BackedBuffer.buffer_mem_assets (owned_of_loans hl h).1

theorem mem_assets_of_side (h : b.side σ = some x) {a : Asset} (ha : a ∈ x.assets) :
    a ∈ b.assets := List.mem_flatMap.mpr ⟨x, side_mem h, ha⟩

/-- The sides share nothing that the tensor owns. -/
theorem side_unique (hd : b.assets.Nodup) (hx : b.side σ = some x) (hy : b.side τ = some y)
    {a : Asset} (hax : a ∈ x.assets) (hay : a ∈ y.assets) : σ = τ := by
  rw [assets, buffers, List.flatMap_cons] at hd
  have hdisj := (List.nodup_append'.mp hd).2.2
  have hin {s : BackedBuffer} (hs : b.staging = some s) {a : Asset} (ha : a ∈ s.assets) :
      a ∈ b.staging.toList.flatMap BackedBuffer.assets :=
    List.mem_flatMap.mpr ⟨s, Option.mem_toList.mpr hs, ha⟩
  cases σ with
  | device =>
    cases τ with
    | device => rfl
    | host =>
      cases hx
      exact (hdisj hax (hin hy hay)).elim
  | host =>
    cases τ with
    | device =>
      cases hy
      exact (hdisj hay (hin hx hax)).elim
    | host => rfl

end Backing

/-- Both sides of sound holdings are sound. -/
theorem Resources.Sound.side {r : Resources} {kind : Placement} {size shift : Nat} {d : Device}
    (h : r.Sound kind size shift d) {σ : Side} {x : BackedBuffer}
    (hx : r.backing.side σ = some x) :
    ∃ need, kind.need? σ = some need ∧ x.Sound size need.usage d := by
  cases σ with
  | device =>
    cases hx
    exact ⟨_, rfl, h.primary⟩
  | host =>
    have hs := h.staging
    rw [Placement.need?]
    cases hn : kind.needs.staging with
    | none =>
      rw [hn] at hs
      cases hs.symm.trans hx
    | some need =>
      rw [hn] at hs
      obtain ⟨s, hs, hsound⟩ := hs
      cases hs.symm.trans hx
      exact ⟨need, rfl, hsound⟩

/-! ## New bytes -/

namespace Gateway

variable {g g' : Gateway} {kind : Placement} {dtype : ElementType} {size : Nat}
  {data : Option Block} {r : Resources} {cs : List Call} {ps qs : List BoundPair}

theorem Supplied.pair {size : Nat} {need : BufferNeed} {b : BackedBuffer} {ps : List BoundPair}
    (h : Supplied size need none b ps) :
    ∃ p ∈ ps, b.memory.handle = p.memory ∧ size ≤ p.room := by
  cases h with
  | created p usage exact fits => exact ⟨p, List.mem_cons_self .., rfl, fits⟩

/-- Where nothing is lent, a pair is behind each side. -/
theorem Backed.pair {size : Nat} {b : Backing} (h : Backed kind size none none b ps qs) {σ : Side}
    {x : BackedBuffer} (hx : b.side σ = some x) :
    ∃ p ∈ ps ++ qs, x.memory.handle = p.memory ∧ size ≤ p.room := by
  cases σ with
  | device =>
    cases hx
    obtain ⟨p, hp, he⟩ := h.primary.pair
    exact ⟨p, List.mem_append_left _ hp, he⟩
  | host =>
    have hs := h.staging
    cases hn : kind.needs.staging with
    | none =>
      rw [hn] at hs
      cases hs.1.symm.trans hx
    | some need =>
      rw [hn] at hs
      obtain ⟨s, hs, hq⟩ := hs
      cases hs.symm.trans hx
      obtain ⟨p, hp, he⟩ := hq.pair
      exact ⟨p, List.mem_append_right _ hp, he⟩

namespace Furnished

theorem loans (h : Furnished g g' kind dtype size data none none r cs ps qs) :
    r.backing.loans = [] := List.subset_nil.mp h.backed.loans

theorem assets_nodup {primary staging : Option LentBuffer}
    (h : Furnished g g' kind dtype size data primary staging r cs ps qs) :
    r.backing.assets.Nodup := by
  rw [h.backed.assets]
  exact .of_map _ (h.passage.fresh_pairs h.ledger).distinct

/-- What new resources hold. -/
theorem contents (h : Furnished g g' kind dtype size data none none r cs ps qs)
    (hg : g.device.Numbered) (hshift : g.faults.mapShift = 0)
    (hdata : ∀ block ∈ data, block.size = size * dtype.width) {σ : Side} {x : BackedBuffer}
    (hx : r.backing.side σ = some x) :
    ∃ m, g'.device.memories.get? x.memory.handle = some m ∧
      (m.contents.slice 0 (size * dtype.width)).toBytes =
        kind.fresh (size * dtype.width) data σ := by
  obtain ⟨p, hp, hpm, hroom⟩ := h.backed.pair hx
  have hnew := Device.memory_withPairs hg (h.passage.fresh_pairs h.ledger) hp
  rw [← hpm] at hnew
  have hzeros : ((Block.zeros p.room).slice 0 (size * dtype.width)).toBytes = List.replicate _ 0 :=
    Block.toBytes_slice_zeros hroom
  have hd := h.device
  cases hside : r.backing.hostSide kind with
  | none =>
    rw [hside] at hd
    rw [Backing.hostSide_eq] at hside
    have hhidden : kind.hostSide? ≠ some σ := by
      intro hσ
      rw [hσ, Option.bind_some, hx] at hside
      cases hside
    rw [hd.2.memories, Placement.fresh_of_hidden hhidden]
    exact ⟨_, hnew, hzeros⟩
  | some b =>
    rw [hside] at hd
    obtain ⟨m, -, -, -, -, hu⟩ := hd
    rw [Backing.hostSide_eq] at hside
    obtain ⟨τ, hτ, hb⟩ := Option.bind_eq_some_iff.mp hside
    rw [hu.memories, hshift, Device.mapFilled]
    dsimp only
    rw [Table.get?_modify, hnew]
    by_cases hστ : σ = τ
    · subst hστ
      cases hb.symm.trans hx
      rw [if_pos rfl]
      have howned := (Backing.owned_of_loans h.loans hx).2
      exact ⟨_, rfl, Placement.fresh_of_hostSide hτ howned hdata hroom _⟩
    · have hhidden : kind.hostSide? ≠ some σ := fun he =>
        hστ (Option.some.inj (he.symm.trans hτ))
      rw [Placement.fresh_of_hidden hhidden, if_neg]
      · exact ⟨_, rfl, hzeros⟩
      · intro he
        refine hστ (Backing.side_unique h.assets_nodup hx hb
          (Backing.memory_mem_assets h.loans hx) ?_)
        rw [he]
        exact Backing.memory_mem_assets h.loans hb

end Furnished
end Gateway

/-! ## Old bytes -/

/-- Memory that was there and is not taken keeps its bytes, and what waits is left waiting. -/
structure Device.Spares (d d' : Device) (taken : List Asset) : Prop where
  issued : d.issued ≤ d'.issued
  memories : ∀ i ≤ d.issued, .memory i ∉ taken → d'.memories.get? i = d.memories.get? i
  commandBuffers : d'.commandBuffers = d.commandBuffers

namespace Device.Spares

variable {d d' d'' : Device} {taken taken' : List Asset}

theorem refl (d : Device) : Spares d d [] := ⟨Nat.le_refl _, fun _ _ _ => rfl, rfl⟩

theorem weaken (h : Spares d d' taken) (ht : taken ⊆ taken') : Spares d d' taken' :=
  ⟨h.issued, fun i hi hn => h.memories i hi fun hm => hn (ht hm), h.commandBuffers⟩

theorem trans (h : Spares d d' taken) (h' : Spares d' d'' taken') :
    Spares d d'' (taken ++ taken') where
  issued := Nat.le_trans h.issued h'.issued
  memories i hi hn := by
    rw [List.mem_append, not_or] at hn
    exact (h'.memories i (Nat.le_trans hi h.issued) hn.2).trans (h.memories i hi hn.1)
  commandBuffers := h'.commandBuffers.trans h.commandBuffers

theorem withPairs {ps : List BoundPair} (hf : Fresh d ps) (h : Unchanged (d.withPairs ps) d')
    (hi : d.issued ≤ d'.issued) : Spares d d' [] where
  issued := hi
  memories i hi _ := by
    rw [h.memories]
    refine Table.get?_insertAll_of_notMem _ ?_
    rw [List.map_map]
    intro hm
    obtain ⟨p, hp, rfl⟩ := List.mem_map.mp hm
    exact absurd hi (Nat.not_le.mpr (hf.memory_later hp))
  commandBuffers := h.commandBuffers

end Device.Spares

namespace Gateway

open Device (Spares)

variable {g g' : Gateway} {kind : Placement} {dtype : ElementType} {size : Nat}
  {data : Option Block} {r : Resources} {cs : List Call} {ps qs : List BoundPair}

theorem Gained.spares (h : Gained g g' cs ps) : Spares g.device g'.device [] :=
  .withPairs h.fresh h.device h.passage.issued_le

/-- Nothing older than the resources is written to. -/
theorem Furnished.spares (h : Furnished g g' kind dtype size data none none r cs ps qs) :
    Spares g.device g'.device [] := by
  have hf := h.passage.fresh_pairs h.ledger
  have hi := h.passage.issued_le
  rcases h.device_cases with ⟨-, hu⟩ | ⟨place, fill, hm, hu⟩
  · exact .withPairs hf hu hi
  have hlater : g.device.issued < place.memory := by
    have hmem : .memory place.memory ∈ r.backing.assets ++ r.backing.loans :=
      r.mapped_subset kind (hm ▸ List.mem_singleton.mpr rfl)
    rw [h.loans, List.append_nil, h.backed.assets] at hmem
    exact hf.later _ hmem
  have hpairs := Spares.withPairs hf (.refl _) (Nat.le_refl _)
  refine ⟨hi, fun i hle hn => ?_, hu.commandBuffers⟩
  rw [hu.memories, ← hpairs.memories i hle hn, Device.mapFilled]
  dsimp only
  rw [Table.get?_modify, if_neg (Nat.ne_of_lt (Nat.lt_of_le_of_lt hle hlater))]

end Gateway

theorem BackedBuffer.release_spares {b : BackedBuffer} {size : Nat} {usage : Mask} {g : Gateway}
    (h : b.Sound size usage g.device) (hg : g.device.Numbered) :
    Device.Spares g.device (b.release g).device b.assets := by
  cases ho : b.buffer.isOwned with
  | false =>
    rw [release_borrowed h ho, assets_borrowed h.together ho]
    exact .refl _
  | true =>
    rw [release_owned h hg ho, assets_owned h.together ho]
    refine ⟨Nat.le_refl _, fun i _ hn => ?_, rfl⟩
    dsimp only
    rw [Table.get?_erase, if_neg]
    rintro rfl
    exact hn (List.mem_cons_of_mem _ (List.mem_singleton.mpr rfl))

theorem Resources.release_spares {r : Resources} {kind : Placement} {size shift : Nat}
    {g : Gateway} (h : r.Sound kind size shift g.device) (hg : g.device.Numbered)
    (hd : r.backing.assets.Nodup) :
    Device.Spares g.device (r.release kind g).device (r.mapped kind ++ r.backing.assets) := by
  refine release_induction (P := fun g₁ =>
    Device.Spares g.device g₁.device (r.mapped kind ++ r.backing.assets)) h hg hd ?_ ?_
  · rcases unmapHost_device h with he | ⟨b, hb, he⟩
    · rw [he]
      exact (Device.Spares.refl _).weaken (List.nil_subset _)
    · rw [he]
      refine ⟨Nat.le_refl _, fun i _ hn => ?_, rfl⟩
      dsimp only
      rw [Table.get?_modify, if_neg]
      rintro rfl
      refine hn (List.mem_append_left _ ?_)
      rw [mapped_eq h, hb]
      exact List.mem_singleton.mpr rfl
  · intro b hb g₁ usage hs hn hp
    refine (hp.trans (BackedBuffer.release_spares hs hn)).weaken ?_
    refine List.append_subset.mpr ⟨fun _ ha => ha, fun a ha => ?_⟩
    exact List.mem_append_right _ (List.mem_flatMap.mpr ⟨b, hb, ha⟩)

namespace Tensor

open Device (Spares)

variable {t : Tensor} {g : Gateway} {shift : Nat}

theorem releaseHoldings_spares (h : t.Sound shift g.device) (hg : g.device.Numbered)
    (hd : t.assets.Nodup) :
    Spares g.device (t.releaseHoldings g).device (t.mapped ++ t.assets) := by
  unfold releaseHoldings
  cases hr : t.residence with
  | live r =>
    rw [assets_of_live hr] at hd
    rw [mapped_of_live hr, assets_of_live hr]
    exact Resources.release_spares (h r hr) hg hd
  | vacant => exact (Spares.refl _).weaken (List.nil_subset _)
  | detached => exact (Spares.refl _).weaken (List.nil_subset _)

theorem destroy_spares (h : t.Sound shift g.device) (hg : g.device.Numbered)
    (hd : t.assets.Nodup) : Spares g.device (t.destroy g).2.device (t.mapped ++ t.assets) :=
  destroy_device t g ▸ releaseHoldings_spares h hg hd

theorem rebuild_spares (h : t.Sound shift g.device) (hg : g.device.Numbered)
    (hd : t.assets.Nodup) (data : Block) (size elementSize : Nat) :
    Spares g.device (t.rebuild g data size elementSize).2.2.device (t.mapped ++ t.assets) := by
  rcases rebuild_spec hg t data size elementSize with
    ⟨e, -, he⟩ | ⟨g₀, cs, r, g', -, -, hx, hdevice, he, cs', hs⟩
  · rw [he]
    exact (Spares.refl _).weaken (List.nil_subset _)
  rw [he]
  have hold : Spares g.device g₀.device (t.mapped ++ t.assets) := by
    rw [hdevice]
    exact releaseHoldings_spares h hg hd
  have hnew : Spares g₀.device g'.device [] := by
    cases r with
    | error e => exact hs.spares
    | ok resources =>
      obtain ⟨ps, qs, hf⟩ := hs
      exact hf.spares
  have hboth := hold.trans hnew
  rwa [List.append_nil] at hboth

end Tensor

theorem TensorPlan.build_spares {plan : TensorPlan} {g g' : Gateway}
    {r : Except TensorError Tensor} (hg : g.device.Numbered) (hp : plan.primary = none)
    (hs : plan.staging = none) (h : plan.build g = (r, g')) :
    Device.Spares g.device g'.device [] := by
  obtain ⟨cs, hb⟩ := build_spec hg h
  cases r with
  | error e => exact hb.spares
  | ok t =>
    obtain ⟨n, resources, ps, qs, -, -, -, -, hf⟩ := hb
    rw [hp, hs] at hf
    exact hf.spares

end TensorMemory
