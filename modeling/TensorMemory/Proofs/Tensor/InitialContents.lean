import TensorMemory.Proofs.Device.Bytes
import TensorMemory.Proofs.Tensor.Contents

/-!
What a construction writes. The only memory it writes to is the one that it maps for the host, and
there only the bytes of the tensor: they become the data, or zeros where there is none and the
memory is new (`Seeded`). All other memory that there was keeps its bytes, and all other new memory
is zero (`Furnished.bytes_other`). So nothing is written for a tensor that the host does not see,
and the device's side of a tensor stays as it was unless it serves as the host's side too.
-/

namespace TensorMemory

/-- What a construction makes of memory that it maps for the host: from `before` comes `now`, in
which the range of the tensor holds the data, or zeros if there is none and the memory is owned, and
in which nothing else is changed. -/
structure Seeded (before : Option Bytes) (now : Bytes) (offset length : Nat) (owned : Bool)
    (data : Option Block) : Prop where
  room : offset + length ≤ now.length
  filled : ∀ block ∈ data, (now.drop offset).take length = block.toBytes
  cleared : data = none → owned = true →
    (now.drop offset).take length = List.replicate length 0
  kept : data = none → owned = false → ∀ old, before = some old → now = old
  outside : ∀ old, before = some old → now.length = old.length ∧
    ∀ k, k < offset ∨ offset + length ≤ k → now[k]? = old[k]?

namespace Memory

variable {m : Memory} {offset length : Nat}

/-- A range that a block is written over shows the block. -/
theorem range_overwrite {block : Block} (hs : block.size = length)
    (hr : offset + length ≤ m.contents.size) :
    (((m.contents.overwrite offset block).toBytes.drop offset).take length) = block.toBytes := by
  rw [← hs, ← Block.toBytes_slice]
  exact Block.toBytes_slice_overwrite _ _ _ (hs ▸ hr)

/-- Bytes that lie outside of a block that is written are as they were. -/
theorem outside_mapFilled {fill : Option Block} {k : Nat} (hs : ∀ block ∈ fill, block.size = length)
    (hk : k < offset ∨ offset + length ≤ k) :
    (m.mapFilled offset fill).contents.toBytes[k]? = m.contents.toBytes[k]? := by
  cases fill with
  | none => rfl
  | some block =>
    have hsize := hs block rfl
    refine (Block.getElem?_toBytes_overwrite ..).trans (if_neg ?_)
    omega

theorem seeded_mapFilled {b : BackedBuffer} {data : Option Block} {before : Option Bytes}
    (hr : offset + length ≤ m.contents.size) (hd : ∀ block ∈ data, block.size = length)
    (hb : ∀ old, before = some old → old = m.contents.toBytes) :
    Seeded before (m.mapFilled offset (b.fill length data)).contents.toBytes offset length
      b.memory.isOwned data where
  room := by
    rw [Block.length_toBytes, Gateway.size_mapFilled]
    exact hr
  filled block hblock := by
    cases hblock
    exact range_overwrite (hd block rfl) hr
  cleared hnone ho := by
    subst hnone
    rw [BackedBuffer.fill, if_pos ho]
    exact (range_overwrite (Block.size_zeros length) hr).trans (Block.toBytes_zeros length)
  kept hnone ho old hold := by
    subst hnone
    rw [BackedBuffer.fill, ho, if_neg Bool.false_ne_true, hb old hold]
    rfl
  outside old hold := by
    rw [hb old hold, Block.length_toBytes, Block.length_toBytes, Gateway.size_mapFilled]
    refine ⟨rfl, fun k hk => outside_mapFilled ?_ hk⟩
    intro block hblock
    unfold BackedBuffer.fill at hblock
    cases data with
    | some data =>
      cases hblock
      exact hd block rfl
    | none =>
      dsimp only at hblock
      split at hblock <;> cases hblock
      exact Block.size_zeros length

end Memory

/-- Memory that there was before the pairs were is still there, the same. -/
theorem Device.memory_withPairs_of_old {d : Device} {ps : List BoundPair} {i : Handle} {m : Memory}
    (hd : d.Numbered) (hf : d.Fresh ps) (hm : d.memories.get? i = some m) :
    (d.withPairs ps).memories.get? i = some m :=
  ((Spares.withPairs hf (.refl _) (Nat.le_refl _)).memories i (hd.memories hm).2
    List.not_mem_nil).trans hm

namespace Gateway.Furnished

variable {g g' : Gateway} {kind : Placement} {dtype : ElementType} {size : Nat}
  {data : Option Block} {primary staging : Option LentBuffer} {r : Resources} {cs : List Call}
  {ps qs : List BoundPair}

/-- Memory that is not mapped for the host is as it is with the new pairs. -/
theorem memory_other (h : Furnished g g' kind dtype size data primary staging r cs ps qs)
    {i : Handle} (hi : ∀ b, r.backing.hostSide kind = some b → i ≠ b.memory.handle) :
    g'.device.memories.get? i = (g.device.withPairs (ps ++ qs)).memories.get? i := by
  have hd := h.device
  cases hs : r.backing.hostSide kind with
  | none =>
    rw [hs] at hd
    rw [hd.2.memories]
  | some b =>
    rw [hs] at hd
    obtain ⟨m, -, -, -, -, hu⟩ := hd
    rw [hu.memories, Device.mapFilled]
    dsimp only
    rw [Table.get?_modify, if_neg (hi b hs)]

theorem bytes_other (h : Furnished g g' kind dtype size data primary staging r cs ps qs)
    (hg : g.device.Numbered) {i : Handle} {old : Bytes}
    (hi : ∀ b, r.backing.hostSide kind = some b → i ≠ b.memory.handle)
    (hold : g.device.bytes? i = some old) : g'.device.bytes? i = some old := by
  obtain ⟨m, hm, rfl⟩ := Device.bytes?_eq_some.mp hold
  refine Device.bytes?_eq_some.mpr ⟨m, ?_, rfl⟩
  rw [h.memory_other hi]
  exact Device.memory_withPairs_of_old hg (h.passage.fresh_pairs h.ledger) hm

theorem bytes_hostSide (h : Furnished g g' kind dtype size data primary staging r cs ps qs)
    (hg : g.device.Numbered) (hdata : ∀ block ∈ data, block.size = size * dtype.width)
    {b : BackedBuffer} (hb : r.backing.hostSide kind = some b) :
    ∃ now, g'.device.bytes? b.memory.handle = some now ∧
      Seeded (g.device.bytes? b.memory.handle) now g.faults.mapShift (size * dtype.width)
        b.memory.isOwned data := by
  have hd := h.device
  rw [hb] at hd
  obtain ⟨m, -, hm, -, hr, hu⟩ := hd
  refine ⟨_, Device.bytes?_eq_some.mpr ⟨m.mapFilled g.faults.mapShift _, ?_, rfl⟩,
    Memory.seeded_mapFilled hr hdata ?_⟩
  · rw [hu.memories, Device.mapFilled, Table.get?_modify, if_pos rfl, hm]
    rfl
  · intro old hold
    obtain ⟨m', hm', rfl⟩ := Device.bytes?_eq_some.mp hold
    have hsame := Device.memory_withPairs_of_old hg (h.passage.fresh_pairs h.ledger) hm'
    cases hm.symm.trans hsame
    rfl

/-- Memory that was there is no new memory. -/
theorem old_ne_owned (h : Furnished g g' kind dtype size data primary staging r cs ps qs)
    (hg : g.device.Numbered) {i : Handle} {old : Bytes} (hold : g.device.bytes? i = some old)
    {x : BackedBuffer} {σ : Side} (hx : r.backing.side σ = some x)
    (ho : x.memory.isOwned = true) : i ≠ x.memory.handle := by
  obtain ⟨m, hm, -⟩ := Device.bytes?_eq_some.mp hold
  have hmem := Backing.mem_assets_of_side hx (BackedBuffer.memory_mem_assets ho)
  rw [h.backed.assets] at hmem
  have hlater := (h.passage.fresh_pairs h.ledger).later _ hmem
  exact Nat.ne_of_lt (Nat.lt_of_le_of_lt (hg.memories hm).2 hlater)

/-- New memory that is not mapped for the host is zero. -/
theorem bytes_new (h : Furnished g g' kind dtype size data primary staging r cs ps qs)
    (hg : g.device.Numbered) {x : BackedBuffer} {σ : Side} (hx : r.backing.side σ = some x)
    (ho : x.memory.isOwned = true)
    (hi : ∀ b, r.backing.hostSide kind = some b → x.memory.handle ≠ b.memory.handle) :
    ∃ room, g'.device.bytes? x.memory.handle = some (List.replicate room 0) := by
  have hmem := Backing.mem_assets_of_side hx (BackedBuffer.memory_mem_assets ho)
  rw [h.backed.assets, List.mem_flatMap] at hmem
  obtain ⟨p, hp, hpx⟩ := hmem
  have he : x.memory.handle = p.memory := by simpa [BoundPair.assets] using hpx
  have hnew := Device.memory_withPairs hg (h.passage.fresh_pairs h.ledger) hp
  rw [← he, ← h.memory_other hi] at hnew
  exact ⟨p.room, Device.bytes?_eq_some.mpr ⟨_, hnew, Block.toBytes_zeros p.room⟩⟩

/-- A staging buffer was lent, or it is new. -/
theorem staging_cases (h : Furnished g g' .device dtype size data primary staging r cs ps qs)
    {b : BackedBuffer} (hb : r.backing.staging = some b) :
    (∃ l ∈ staging, b.memory.handle = l.memory) ∨ b.memory.isOwned = true := by
  obtain ⟨s, hs, hsupplied⟩ := h.backed.staging
  cases hs.symm.trans hb
  cases hsupplied with
  | lent l => exact .inl ⟨l, rfl, rfl⟩
  | created p usage exact fits => exact .inr rfl

/-- The device's side of a tensor is not written to, unless it was lent for the host's side too. -/
theorem bytes_primary (h : Furnished g g' .device dtype size data primary staging r cs ps qs)
    (hg : g.device.Numbered)
    (hs : ∀ l ∈ staging, l.memory ≠ r.backing.primary.memory.handle) :
    (r.backing.primary.memory.isOwned = true →
      ∃ room, g'.device.bytes? r.backing.primary.memory.handle = some (List.replicate room 0)) ∧
    ∀ old, g.device.bytes? r.backing.primary.memory.handle = some old →
      g'.device.bytes? r.backing.primary.memory.handle = some old := by
  constructor
  · intro ho
    refine h.bytes_new hg (σ := .device) rfl ho fun b hb he => ?_
    rcases h.staging_cases hb with ⟨l, hl, hbl⟩ | hbo
    · exact hs l hl (hbl.symm.trans he.symm)
    · have hp := BackedBuffer.memory_mem_assets ho
      rw [he] at hp
      cases Backing.side_unique (σ := .device) (τ := .host) h.assets_nodup rfl hb hp
        (BackedBuffer.memory_mem_assets hbo)
  · intro old hold
    refine h.bytes_other hg (fun b hb => ?_) hold
    rcases h.staging_cases hb with ⟨l, hl, hbl⟩ | hbo
    · rw [hbl]
      exact (hs l hl).symm
    · exact h.old_ne_owned hg hold (σ := .host) hb hbo

end Gateway.Furnished

/-- A construction that succeeds seeds the memory that it maps for the host, and leaves all other
memory as it was: all of it for a tensor that the host does not see, and the device's side of one
with a staging copy, unless that was lent for staging too. -/
theorem initial_contents {g g' : Gateway} {plan : TensorPlan} {t : Tensor}
    (hg : g.device.Reachable) (h : plan.build g = (.ok t, g')) :
    ∃ r, t.residence = .live r ∧
      (∀ b, r.backing.hostSide plan.kind = some b →
        r.mapping = some ⟨b.memory.handle, g.faults.mapShift⟩ ∧
        ∃ now, g'.device.bytes? b.memory.handle = some now ∧
          Seeded (g.device.bytes? b.memory.handle) now g.faults.mapShift t.byteSize
            b.memory.isOwned plan.data) ∧
      (∀ i old, g.device.bytes? i = some old →
        (∀ b, r.backing.hostSide plan.kind = some b → i ≠ b.memory.handle) →
        g'.device.bytes? i = some old) ∧
      (plan.kind = .storage → ∀ i old, g.device.bytes? i = some old →
        g'.device.bytes? i = some old) ∧
      (plan.kind = .device →
        (∀ l ∈ plan.staging, l.memory ≠ r.backing.primary.memory.handle) →
        (r.backing.primary.memory.isOwned = true → ∃ room,
          g'.device.bytes? r.backing.primary.memory.handle = some (List.replicate room 0)) ∧
        ∀ old, g.device.bytes? r.backing.primary.memory.handle = some old →
          g'.device.bytes? r.backing.primary.memory.handle = some old) := by
  obtain ⟨cs, hspec⟩ := TensorPlan.build_spec hg.numbered h
  obtain ⟨n, r, ps, qs, rfl, hdata, -, -, hf⟩ := hspec
  refine ⟨r, rfl, fun b hb => ⟨?_, hf.bytes_hostSide hg.numbered hdata hb⟩, ?_, ?_, ?_⟩
  · rw [(hf.sound hg.numbered).mapping, hb]
    rfl
  · exact fun i old hold hi => hf.bytes_other hg.numbered hi hold
  · intro hk i old hold
    refine hf.bytes_other hg.numbered (fun b hb => ?_) hold
    rw [hk] at hb
    cases hb
  · intro hk hs
    rw [hk] at hf
    exact hf.bytes_primary hg.numbered hs

/-- A device with a staging buffer of the caller's, in which something is written further on than a
small tensor reaches. -/
def inscribed : Gateway :=
  .ofDevice ((Device.ofTypes [MemoryFlags.deviceLocal, Placement.hostCoherent]).run
    [.createBound 16 Placement.transfer Placement.hostCoherent, .store ⟨2, 20⟩ (.ofBytes [9])])

def pairOfFloats : TensorPlan :=
  { dtype := .float, kind := .device, data := some (.ofBytes [1, 2, 3, 4, 5, 6, 7, 8])
    staging := some ⟨1, 2⟩ }

theorem initial_contents_inscribed : ∃ now, (pairOfFloats.build inscribed).2.device.bytes? 2 =
    some now ∧ now.take 8 = [1, 2, 3, 4, 5, 6, 7, 8] ∧ now[20]? = some 9 ∧
      ∃ room, (pairOfFloats.build inscribed).2.device.bytes? 4 = some (List.replicate room 0) := by
  have hbuild : pairOfFloats.build inscribed = (.ok ⟨.device, .float, 2, .live
      ⟨⟨.owned 3 4 Placement.device.needs.primary.usage, some (.borrowed ⟨1, 2⟩)⟩, some ⟨2, 0⟩⟩⟩,
      (pairOfFloats.build inscribed).2) := rfl
  obtain ⟨r, hr, hhost, -, -, hprimary⟩ := initial_contents ⟨_, _, rfl⟩ hbuild
  cases hr
  obtain ⟨-, now, hnow, hseeded⟩ := hhost (.borrowed ⟨1, 2⟩) rfl
  have hbefore : inscribed.device.bytes? 2 =
      some (List.replicate 20 0 ++ [9] ++ List.replicate 43 0) := by decide +kernel
  refine ⟨now, hnow, ?_, ?_, (hprimary rfl ?_).1 rfl⟩
  · exact (hseeded.filled _ rfl).trans (Block.toBytes_ofBytes _)
  · exact (hseeded.outside _ hbefore).2 20 (.inr (by decide))
  · intro l hl
    cases hl
    decide

end TensorMemory
