import TensorMemory.Proofs.Bench.Machine
import TensorMemory.Proofs.Bench.Propriety

/-!
How cells lie on a device. Behind each cell of a live tensor is a buffer of exactly its size, bound
at the start of a memory that no other cell is in, and the cell's bytes are the first ones there
(`Laid`). Waiting commands stand for transfers between cells (`Encodes`), and executing the commands
makes the transfers (`Encodes.execute`).
-/

namespace TensorMemory

/-- The buffer behind a cell, and the tensor whose cell it is. -/
structure Behind (ts : Table Nat Tensor) (c : Cell) (t : Tensor) (b : BackedBuffer) : Prop where
  tensor : ts.get? c.tensor = some t
  side : ∃ r, t.residence = .live r ∧ r.backing.side c.side = some b

theorem Behind.congr {ts ts' : Table Nat Tensor} {c : Cell} {t : Tensor} {b : BackedBuffer}
    (h : Behind ts c t b) (ht : ts'.get? c.tensor = ts.get? c.tensor) : Behind ts' c t b :=
  ⟨ht.trans h.tensor, h.side⟩

theorem Behind.side_of_some {ts : Table Nat Tensor} {c : Cell} {t u : Tensor} {b : BackedBuffer}
    (h : Behind ts c t b) (hu : ts.get? c.tensor = some u) :
    t = u ∧ ∃ r, u.residence = .live r ∧ r.backing.side c.side = some b := by
  obtain rfl : t = u := Option.some.inj (h.tensor.symm.trans hu)
  exact ⟨rfl, h.side⟩

theorem Behind.mem_assets {ts : Table Nat Tensor} {c : Cell} {t : Tensor} {b : BackedBuffer}
    (h : Behind ts c t b) {a : Asset} (ha : a ∈ b.assets) : a ∈ t.assets := by
  obtain ⟨r, hr, hb⟩ := h.side
  rw [Tensor.assets_of_live hr]
  exact Backing.mem_assets_of_side hb ha

theorem Behind.owned {ts : Table Nat Tensor} {c : Cell} {t : Tensor} {b : BackedBuffer}
    (h : Behind ts c t b) (hl : t.loans = []) : b.buffer.isOwned = true := by
  obtain ⟨r, hr, hb⟩ := h.side
  rw [Tensor.loans_of_live hr] at hl
  exact (Backing.owned_of_loans hl hb).1

structure Laid (ts : Table Nat Tensor) (d : Device) (cells : Cells) : Prop where
  bound : ∀ {c t b}, Behind ts c t b → ∃ need, t.kind.need? c.side = some need ∧
    d.buffers.get? b.buffer.handle = some ⟨t.byteSize, need.usage, some ⟨b.memory.handle, 0⟩⟩
  filled : ∀ {c t b}, Behind ts c t b → ∃ m, d.memories.get? b.memory.handle = some m ∧
    t.byteSize ≤ m.contents.size ∧ (m.contents.slice 0 t.byteSize).toBytes = cells c
  apart : ∀ {c c' t t' b b'}, Behind ts c t b → Behind ts c' t' b' →
    b.memory.handle = b'.memory.handle → c = c'

namespace Laid

variable {ts : Table Nat Tensor} {d d' : Device} {cells : Cells} {c c' : Cell} {t t' : Tensor}
  {b b' : BackedBuffer} {size : Nat}

theorem congr (h : Laid ts d cells) (hb : d'.buffers = d.buffers)
    (hm : d'.memories = d.memories) : Laid ts d' cells where
  bound hc := by
    rw [hb]
    exact h.bound hc
  filled hc := by
    rw [hm]
    exact h.filled hc
  apart := h.apart

/-- Each cell has as many bytes as its tensor. -/
theorem length_cell (h : Laid ts d cells) (hc : Behind ts c t b) :
    (cells c).length = t.byteSize := by
  obtain ⟨m, -, hs, he⟩ := h.filled hc
  rw [← he, Block.length_toBytes, Block.size_slice, Nat.sub_zero, Nat.min_eq_left hs]

theorem locate (h : Laid ts d cells) (hc : Behind ts c t b) {need : BufferNeed} {required : Mask}
    (hn : t.kind.need? c.side = some need) (hu : need.usage.contains required = true)
    (hs : size ≤ t.byteSize) :
    d.locate b.buffer.handle required 0 size = .ok ⟨b.memory.handle, 0⟩ := by
  obtain ⟨need', hn', hb⟩ := h.bound hc
  cases hn.symm.trans hn'
  obtain ⟨m, hm, -⟩ := h.filled hc
  have hlive : d.hasMemory b.memory.handle = true := Table.contains_iff.mpr ⟨m, hm⟩
  rw [Device.locate, hb]
  dsimp only
  rw [hu, if_neg (by decide), if_neg (by omega), if_pos hlive]

theorem locate_beyond (h : Laid ts d cells) (hc : Behind ts c t b) (hs : t.byteSize < size) :
    ∃ e, d.locate b.buffer.handle .empty 0 size = .error e := by
  obtain ⟨need, -, hb⟩ := h.bound hc
  refine ⟨.outOfBounds b.buffer.handle 0 size t.byteSize, ?_⟩
  rw [Device.locate, hb]
  dsimp only
  rw [Mask.contains_empty, if_neg (by decide), if_pos (by omega)]

theorem load (h : Laid ts d cells) (hc : Behind ts c t b) (hs : size ≤ t.byteSize) :
    (d.load ⟨b.memory.handle, 0⟩ size).toBytes = (cells c).take size := by
  obtain ⟨m, hm, -, he⟩ := h.filled hc
  rw [Device.load, hm, ← he]
  dsimp only
  rw [Block.toBytes_slice, Block.toBytes_slice, List.take_take, Nat.min_eq_left hs]

/-- Bytes stored at the start of the memory behind a cell are put into that cell. -/
theorem store (h : Laid ts d cells) (hc : Behind ts c t b) {chunk : Block}
    (hs : chunk.size ≤ t.byteSize) :
    Laid ts (d.store ⟨b.memory.handle, 0⟩ chunk) (cells.put c chunk.toBytes) where
  bound hc' := h.bound hc'
  filled {c' t' b'} hc' := by
    obtain ⟨m, hm, hsize, he⟩ := h.filled hc'
    rw [Device.store]
    dsimp only
    rw [Table.get?_modify, hm]
    by_cases hcc : c' = c
    · subst hcc
      obtain ⟨r, hr, hb⟩ := hc.side
      obtain ⟨rfl, r', hr', hb'⟩ := hc'.side_of_some hc.tensor
      cases hr.symm.trans hr'
      cases hb.symm.trans hb'
      rw [if_pos rfl]
      refine ⟨_, rfl, hsize, ?_⟩
      rw [Cells.put, if_pos rfl, Block.length_toBytes, ← he]
      exact Block.toBytes_slice_overwrite_start _ hs hsize
    · rw [if_neg fun hb => hcc (h.apart hc' hc hb)]
      refine ⟨m, rfl, hsize, ?_⟩
      rw [Cells.put, if_neg hcc]
      exact he
  apart := h.apart

end Laid

/-! ## Waiting commands -/

/-- The handle is that of the buffer behind the cell, which serves the usage and has so many
bytes. -/
def Stands (ts : Table Nat Tensor) (buffer : Handle) (usage : Mask) (size : Nat) (c : Cell) :
    Prop :=
  ∃ t b need, Behind ts c t b ∧ b.buffer.handle = buffer ∧ t.kind.need? c.side = some need ∧
    need.usage.contains usage = true ∧ size ≤ t.byteSize

/-- The commands stand for the transfers. -/
inductive Encodes (ts : Table Nat Tensor) : List Command → List Transfer → Prop
  | nil : Encodes ts [] []
  | barrier {cs : List Command} {xs : List Transfer} (sourceStage targetStage : Mask)
      (barriers : List BufferBarrier) (rest : Encodes ts cs xs) :
      Encodes ts (.barrier sourceStage targetStage barriers :: cs) xs
  | copy {cs : List Command} {xs : List Transfer} {source target : Handle} (x : Transfer)
      (readFrom : Stands ts source UsageFlags.transferSource x.size x.source)
      (writeTo : Stands ts target UsageFlags.transferTarget x.size x.target)
      (rest : Encodes ts cs xs) : Encodes ts (.wholeCopy source target x.size :: cs) (x :: xs)

/-- The buffers that a command copies from and to. -/
def Command.copied : Command → List Handle
  | .copy source target _ => [source, target]
  | .barrier _ _ _ => []

theorem Laid.copyRegion {ts : Table Nat Tensor} {d : Device} {cells : Cells}
    {source target : Handle} {x : Transfer} (h : Laid ts d cells)
    (hs : Stands ts source UsageFlags.transferSource x.size x.source)
    (ht : Stands ts target UsageFlags.transferTarget x.size x.target) :
    ∃ d', d.copyRegion source target ⟨0, 0, x.size⟩ = .ok d' ∧
      Laid ts d' (cells.transfer x) := by
  obtain ⟨t, b, need, hc, rfl, hn, hu, hle⟩ := hs
  obtain ⟨t', b', need', hc', rfl, hn', hu', hle'⟩ := ht
  have hload := h.load hc hle
  have hsize : (d.load ⟨b.memory.handle, 0⟩ x.size).size ≤ x.size := by
    rw [← Block.length_toBytes, hload]
    exact List.length_take_le _ _
  refine ⟨d.store ⟨b'.memory.handle, 0⟩ (d.load ⟨b.memory.handle, 0⟩ x.size), ?_, ?_⟩
  · rw [Device.copyRegion, h.locate hc hn hu hle]
    dsimp only
    rw [h.locate hc' hn' hu' hle']
  · rw [Cells.transfer, ← hload]
    exact h.store hc' (Nat.le_trans hsize hle')

namespace Encodes

variable {ts ts' : Table Nat Tensor} {cs cs' : List Command} {xs xs' : List Transfer}

theorem append (h : Encodes ts cs xs) (h' : Encodes ts cs' xs') :
    Encodes ts (cs ++ cs') (xs ++ xs') := by
  induction h with
  | nil => exact h'
  | barrier sourceStage targetStage barriers _ ih => exact .barrier _ _ _ ih
  | copy x hs ht _ ih => exact .copy x hs ht ih

/-- Commands stand for the same transfers while the buffers that they copy stay where they are. -/
theorem move (h : Encodes ts cs xs)
    (hm : ∀ command ∈ cs, ∀ buffer ∈ command.copied, ∀ c t b, Behind ts c t b →
      b.buffer.handle = buffer → Behind ts' c t b) : Encodes ts' cs xs := by
  induction h with
  | nil => exact .nil
  | barrier sourceStage targetStage barriers _ ih =>
    exact .barrier _ _ _ (ih fun command hc => hm command (List.mem_cons_of_mem _ hc))
  | copy x hs ht _ ih =>
    have hstands {buffer : Handle} {usage : Mask} {c : Cell}
        (hb : ∀ c t b, Behind ts c t b → b.buffer.handle = buffer → Behind ts' c t b)
        (h : Stands ts buffer usage x.size c) : Stands ts' buffer usage x.size c := by
      obtain ⟨t, b, need, hc, he, hrest⟩ := h
      exact ⟨t, b, need, hb c t b hc he, he, hrest⟩
    have hcopied := hm _ (List.mem_cons_self ..)
    refine .copy x (hstands (hcopied _ (List.mem_cons_self ..)) hs) (hstands (hcopied _ ?_) ht)
      (ih fun command hc => hm command (List.mem_cons_of_mem _ hc))
    exact List.mem_cons_of_mem _ (List.mem_cons_self ..)

/-- Executing the commands succeeds and makes the transfers in order. -/
theorem execute (he : Encodes ts cs xs) {d : Device} {cells : Cells} (h : Laid ts d cells)
    (pending : List Handle) (index : Nat) :
    ∃ d', d.execute pending index cs = (.ok (), d') ∧
      Laid ts d' (xs.foldl Cells.transfer cells) := by
  induction he generalizing d cells pending index with
  | nil => exact ⟨d, rfl, h⟩
  | barrier sourceStage targetStage barriers _ ih => exact ih h _ _
  | @copy cs xs source target x hs ht _ ih =>
    rw [Command.wholeCopy, Device.execute]
    have hz : Laid ts (if source ∈ pending then
        { d with hazards := d.hazards ++ [⟨source, AccessFlags.transferWrite, index⟩] }
        else d) cells := by
      split
      · exact h.congr rfl rfl
      · exact h
    revert hz
    generalize (if source ∈ pending then _ else d) = d₁
    intro hz
    obtain ⟨d₂, hd, hlaid⟩ := hz.copyRegion hs ht
    obtain ⟨d₃, hrest, hlaid₃⟩ := ih hlaid (target :: pending) (index + 1)
    refine ⟨d₃, ?_, hlaid₃⟩
    rw [Device.copyRegions, hd]
    exact hrest

end Encodes

/-! ## Whose an asset is -/

/-- No asset is held behind two cells. -/
theorem Bench.Accounted.cell_unique {s : Bench} (hs : Accounted s) {c c' : Cell} {t t' : Tensor}
    {b b' : BackedBuffer} (h : Behind s.tensors c t b) (h' : Behind s.tensors c' t' b') {a : Asset}
    (ha : a ∈ b.assets) (ha' : a ∈ b'.assets) : c = c' := by
  have hheld {c t b} (h : Behind s.tensors c t b) (ha : a ∈ b.assets) :
      a ∈ s.holdings c.tensor := by
    rw [holdings_some h.tensor]
    exact h.mem_assets ha
  have hn : c.tensor = c'.tensor := hs.holdings_unique (hheld h ha) (hheld h' ha')
  have hσ : c.side = c'.side := by
    obtain ⟨r, hr, hx⟩ := h.side
    obtain ⟨rfl, r', hr', hy⟩ := h'.side_of_some (hn ▸ h.tensor)
    cases hr.symm.trans hr'
    have hd := hs.holdings_nodup c.tensor
    rw [holdings_some h.tensor, Tensor.assets_of_live hr] at hd
    exact Backing.side_unique hd hx hy ha ha'
  cases c
  cases c'
  cases hn
  cases hσ
  rfl

/-! ## Proper benches without loans -/

namespace Bench.Proper

variable {s : Bench} {c c' : Cell} {t t' : Tensor} {b b' : BackedBuffer} {n : Nat}

theorem loans_nil (hs : Proper s) (hl : s.lent = []) (ht : s.tensors.get? n = some t) :
    t.loans = [] := by
  apply List.eq_nil_iff_forall_not_mem.mpr
  intro a ha
  have hm := hs.borrowed ht a ha
  rw [hl] at hm
  cases hm

theorem backing_loans (hs : Proper s) (hl : s.lent = []) (ht : s.tensors.get? n = some t)
    {r : Resources} (hr : t.residence = .live r) : r.backing.loans = [] := by
  rw [← Tensor.loans_of_live hr]
  exact hs.loans_nil hl ht

theorem mem_assets (hs : Proper s) (hl : s.lent = []) (h : Behind s.tensors c t b) :
    .buffer b.buffer.handle ∈ s.holdings c.tensor ∧
      .memory b.memory.handle ∈ s.holdings c.tensor := by
  obtain ⟨r, hr, hb⟩ := h.side
  have hloans := hs.backing_loans hl h.tensor hr
  rw [holdings_some h.tensor, Tensor.assets_of_live hr]
  exact ⟨Backing.mem_assets_of_side hb (Backing.buffer_mem_assets hloans hb),
    Backing.mem_assets_of_side hb (Backing.memory_mem_assets hloans hb)⟩

/-- Cells of which the memory is the same are the same. -/
theorem cell_unique (hs : Proper s) (hl : s.lent = []) (h : Behind s.tensors c t b)
    (h' : Behind s.tensors c' t' b') (hb : b.memory.handle = b'.memory.handle) : c = c' := by
  have hm {c t b} (h : Behind s.tensors c t b) : .memory b.memory.handle ∈ b.assets := by
    obtain ⟨r, hr, hside⟩ := h.side
    exact Backing.memory_mem_assets (hs.backing_loans hl h.tensor hr) hside
  exact hs.toAccounted.cell_unique h h' (hm h) (hb ▸ hm h')

theorem sound_behind (hs : Proper s) (hl : s.lent = []) (h : Behind s.tensors c t b) :
    b.buffer.isOwned = true ∧ ∃ need, t.kind.need? c.side = some need ∧
      b.Sound t.byteSize need.usage s.gateway.device := by
  obtain ⟨r, hr, hb⟩ := h.side
  have hloans := hs.backing_loans hl h.tensor hr
  exact ⟨(Backing.owned_of_loans hloans hb).1, (hs.sound h.tensor r hr).side hb⟩

/-- On a proper bench only the bytes remain to be shown. -/
theorem laid (hs : Proper s) (hl : s.lent = []) {cells : Cells}
    (h : ∀ {c t b m}, Behind s.tensors c t b →
      s.gateway.device.memories.get? b.memory.handle = some m →
      (m.contents.slice 0 t.byteSize).toBytes = cells c) :
    Laid s.tensors s.gateway.device cells where
  bound hc := by
    obtain ⟨ho, need, hn, hsound⟩ := hs.sound_behind hl hc
    exact ⟨need, hn, hsound.bound ho⟩
  filled hc := by
    obtain ⟨ho, need, -, hsound⟩ := hs.sound_behind hl hc
    obtain ⟨m, hm, hsize⟩ := hsound.backed ho
    exact ⟨m, hm, hsize, h hc hm⟩
  apart := hs.cell_unique hl

end Bench.Proper
end TensorMemory
