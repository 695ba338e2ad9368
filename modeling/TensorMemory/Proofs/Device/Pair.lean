import Mathlib.Data.List.Pairwise
import TensorMemory.Proofs.Device.Frame

/-!
Buffers with memory of their own. A pair is put in and taken out as one; releasing what was put in
gives back the tables as they were (`unchanged_release`). Two devices that differ only in what is
counted, not in what there is, are unchanged from one another.
-/

namespace TensorMemory

/-- A buffer bound at the start of fresh memory. -/
structure BoundPair where
  buffer : Handle
  memory : Handle
  size : Nat
  usage : Mask
  /-- Bytes of the memory. -/
  room : Nat
  typeIndex : Nat

namespace BoundPair

def assets (p : BoundPair) : List Asset := [.buffer p.buffer, .memory p.memory]

def bufferEntry (p : BoundPair) : Handle × Buffer :=
  (p.buffer, ⟨p.size, p.usage, some ⟨p.memory, 0⟩⟩)

def memoryEntry (p : BoundPair) : Handle × Memory :=
  (p.memory, ⟨.zeros p.room, p.typeIndex, false⟩)

end BoundPair

namespace Device

/-- The devices differ at most in the handles issued, the allocation budget and the numbers of
buffers destroyed and memories freed. -/
structure Unchanged (d d' : Device) : Prop where
  properties : d'.properties = d.properties
  buffers : d'.buffers = d.buffers
  memories : d'.memories = d.memories
  commandBuffers : d'.commandBuffers = d.commandBuffers
  hazards : d'.hazards = d.hazards
  violations : d'.violations = d.violations

namespace Unchanged

variable {d d' d'' : Device}

theorem refl (d : Device) : Unchanged d d := ⟨rfl, rfl, rfl, rfl, rfl, rfl⟩

theorem trans (h : Unchanged d d') (h' : Unchanged d' d'') : Unchanged d d'' where
  properties := h'.properties.trans h.properties
  buffers := h'.buffers.trans h.buffers
  memories := h'.memories.trans h.memories
  commandBuffers := h'.commandBuffers.trans h.commandBuffers
  hazards := h'.hazards.trans h.hazards
  violations := h'.violations.trans h.violations

end Unchanged

/-! ## Operations that meet what they expect -/

variable {d : Device}

theorem requirements_of_live {buffer : Handle} {b : Buffer} (h : d.buffers.get? buffer = some b) :
    (d.requirements buffer).2 = d := by
  rw [requirements, h]

/-- Memory of a type that there is can only be refused for the budget. -/
theorem allocate_of_type (d : Device) (size : Nat) {typeIndex : Nat}
    (h : typeIndex < d.properties.count) :
    (∃ s, d.allocate size typeIndex = (.error s, d)) ∨
      d.allocate size typeIndex = (.ok (d.issued + 1),
        { d with
          issued := d.issued + 1
          allocationBudget := d.allocationBudget.map (· - 1)
          memories := d.memories.insert (d.issued + 1) ⟨.zeros size, typeIndex, false⟩ }) := by
  unfold allocate
  rw [if_neg (Nat.not_le.mpr h)]
  split
  · exact .inl ⟨_, rfl⟩
  · exact .inr rfl

/-- A live buffer that is bound to nothing can only be refused for the room. -/
theorem bind_of_live {buffer memory : Handle} {b : Buffer} {m : Memory}
    (hb : d.buffers.get? buffer = some b) (hu : b.binding = none)
    (hm : d.memories.get? memory = some m) :
    (∃ s, d.bind buffer memory 0 = (.error s, d)) ∨
      b.size ≤ m.contents.size ∧ d.bind buffer memory 0 = (.ok (),
        { d with buffers := d.buffers.modify buffer fun b =>
          { b with binding := some ⟨memory, 0⟩ } }) := by
  unfold bind
  rw [hm, hb]
  dsimp only
  rw [hu, if_neg (by simp), Nat.zero_add]
  split
  · exact .inl ⟨_, rfl⟩
  · next h => exact .inr ⟨Nat.not_lt.mp h, rfl⟩

/-- A mapping is made only where the memory was not mapped, and its place is where it was asked
for. -/
theorem map_ok {d' : Device} {memory : Handle} {offset size : Nat} {place : Place}
    (h : d.map memory offset size = (.ok place, d')) :
    place = ⟨memory, offset⟩ ∧ (∃ m, d.memories.get? memory = some m ∧ m.mapped = false ∧
      (size ≠ wholeSize → offset + size ≤ m.contents.size)) ∧
      d' = { d with memories := d.memories.modify memory fun m => { m with mapped := true } } := by
  unfold map at h
  split at h
  · cases h
  next m hm =>
  split at h
  · cases h
  next hf =>
  generalize hn : (if size = wholeSize then m.contents.size - offset else size) = n at h
  dsimp only at h
  split at h
  · cases h
  next hs =>
  cases h
  rw [Bool.or_eq_true, not_or] at hf
  refine ⟨rfl, ⟨m, hm, Bool.eq_false_iff.mpr hf.1, ?_⟩, rfl⟩
  intro hw
  rw [if_neg hw] at hn
  rw [hn]
  exact Nat.not_lt.mp hs

theorem unmap_of_mapped {memory : Handle} {m : Memory} (h : d.memories.get? memory = some m)
    (hm : m.mapped = true) : d.unmap memory =
      { d with memories := d.memories.modify memory fun m => { m with mapped := false } } := by
  rw [unmap, isMapped, h, Option.any_some, hm, if_pos rfl]

theorem destroyBuffer_of_live {buffer : Handle} {b : Buffer}
    (h : d.buffers.get? buffer = some b) (h0 : 0 < buffer) : d.destroyBuffer buffer =
      { d with
        buffers := d.buffers.erase buffer
        buffersDestroyed := d.buffersDestroyed + 1 } := by
  rw [destroyBuffer, if_neg (Nat.pos_iff_ne_zero.mp h0),
    if_pos (hasBuffer_iff.mpr (buffer_mem_assets.mpr ⟨b, h⟩))]

/-- Live memory to which no buffer is bound is freed without a word. -/
theorem freeMemory_of_unbound {memory : Handle} {m : Memory}
    (h : d.memories.get? memory = some m) (h0 : 0 < memory)
    (hu : ∀ i b p, d.buffers.get? i = some b → b.binding = some p → p.memory ≠ memory) :
    d.freeMemory memory =
      { d with
        memories := d.memories.erase memory
        memoriesFreed := d.memoriesFreed + 1 } := by
  have hn : d.isBoundTo memory = false := by
    apply Bool.eq_false_iff.mpr
    intro hb
    obtain ⟨i, b, hi, hp⟩ := Table.any_iff.mp hb
    cases hbp : b.binding with
    | none =>
      rw [hbp] at hp
      cases hp
    | some p =>
      rw [hbp] at hp
      exact hu i b p hi hbp (by simpa using hp)
  rw [freeMemory, if_neg (Nat.pos_iff_ne_zero.mp h0), hn]
  exact if_pos (hasMemory_iff.mpr (memory_mem_assets.mpr ⟨m, h⟩))

/-- A buffer goes before its memory, so that memory which it alone is bound to is free by then. -/
theorem release_of_sole {buffer memory : Handle} {b : Buffer} {m : Memory}
    (hb : d.buffers.get? buffer = some b) (hb0 : 0 < buffer)
    (hm : d.memories.get? memory = some m) (hm0 : 0 < memory)
    (hs : ∀ i b p, d.buffers.get? i = some b → b.binding = some p → p.memory = memory →
      i = buffer) :
    (d.destroyBuffer buffer).freeMemory memory =
      { d with
        buffers := d.buffers.erase buffer
        memories := d.memories.erase memory
        buffersDestroyed := d.buffersDestroyed + 1
        memoriesFreed := d.memoriesFreed + 1 } := by
  rw [destroyBuffer_of_live hb hb0]
  generalize hd : ({ d with
    buffers := d.buffers.erase buffer
    buffersDestroyed := d.buffersDestroyed + 1 } : Device) = d'
  have hm' : d'.memories.get? memory = some m := by rw [← hd]; exact hm
  rw [freeMemory_of_unbound hm' hm0, ← hd]
  intro i b p hi hp he
  rw [← hd] at hi
  dsimp only at hi
  rw [Table.get?_erase] at hi
  split at hi
  · cases hi
  · next hn => exact hn (hs i b p hi hp he)

/-! ## Pairs -/

/-- The device with the pairs on top of what it has. -/
def withPairs (d : Device) (ps : List BoundPair) : Device :=
  { d with
    buffers := d.buffers.insertAll (ps.map BoundPair.bufferEntry)
    memories := d.memories.insertAll (ps.map BoundPair.memoryEntry) }

theorem withPairs_append (d : Device) (ps qs : List BoundPair) :
    d.withPairs (ps ++ qs) = (d.withPairs ps).withPairs qs := by
  simp only [withPairs, List.map_append, Table.insertAll_append]

theorem Unchanged.withPairs {d d' : Device} (h : Unchanged d d') (ps : List BoundPair) :
    Unchanged (d.withPairs ps) (d'.withPairs ps) where
  properties := h.properties
  buffers := congrArg (Table.insertAll · _) h.buffers
  memories := congrArg (Table.insertAll · _) h.memories
  commandBuffers := h.commandBuffers
  hazards := h.hazards
  violations := h.violations

theorem mem_assets_withPairs (d : Device) (ps : List BoundPair) (a : Asset) :
    a ∈ (d.withPairs ps).assets ↔ a ∈ d.assets ∨ a ∈ ps.flatMap BoundPair.assets := by
  have hmem : a ∈ ps.flatMap BoundPair.assets ↔
      (∃ p ∈ ps, a = .buffer p.buffer) ∨ ∃ p ∈ ps, a = .memory p.memory := by
    simp only [List.mem_flatMap, BoundPair.assets, List.mem_cons, List.not_mem_nil, or_false]
    grind
  rw [hmem]
  cases a with
  | buffer h =>
    rw [buffer_mem_assets, buffer_mem_assets, withPairs, Table.exists_get?_insertAll]
    simp [BoundPair.bufferEntry]
  | memory h =>
    rw [memory_mem_assets, memory_mem_assets, withPairs, Table.exists_get?_insertAll]
    simp [BoundPair.memoryEntry]

/-- The handles of the pairs are different, and later than any that the device has given out. -/
structure Fresh (d : Device) (ps : List BoundPair) : Prop where
  later : ∀ a ∈ ps.flatMap BoundPair.assets, d.issued < a.handle
  distinct : ((ps.flatMap BoundPair.assets).map Asset.handle).Nodup

namespace Fresh

variable {p : BoundPair} {ps : List BoundPair}

theorem buffer_later (h : Fresh d ps) (hp : p ∈ ps) : d.issued < p.buffer :=
  h.later (.buffer p.buffer) (List.mem_flatMap.mpr ⟨p, hp, List.mem_cons_self ..⟩)

theorem memory_later (h : Fresh d ps) (hp : p ∈ ps) : d.issued < p.memory :=
  h.later (.memory p.memory)
    (List.mem_flatMap.mpr ⟨p, hp, List.mem_cons_of_mem _ (List.mem_cons_self ..)⟩)

theorem handle_notMem (h : Fresh d (p :: ps)) {a : Asset} (ha : a ∈ p.assets) :
    ∀ q ∈ ps, a.handle ≠ q.buffer ∧ a.handle ≠ q.memory := by
  have hd := h.distinct
  rw [List.flatMap_cons, List.map_append] at hd
  have hn := (List.nodup_append'.mp hd).2.2
  intro q hq
  refine ⟨fun he => ?_, fun he => ?_⟩
  · refine hn (List.mem_map_of_mem ha) (List.mem_map.mpr ⟨.buffer q.buffer, ?_, he.symm⟩)
    exact List.mem_flatMap.mpr ⟨q, hq, List.mem_cons_self ..⟩
  · refine hn (List.mem_map_of_mem ha) (List.mem_map.mpr ⟨.memory q.memory, ?_, he.symm⟩)
    exact List.mem_flatMap.mpr ⟨q, hq, List.mem_cons_of_mem _ (List.mem_cons_self ..)⟩

end Fresh

theorem frame_withPairs {ps : List BoundPair} (h : Fresh d ps) :
    Frame d (d.withPairs ps) [] [] where
  issued := Nat.le_refl _
  properties := rfl
  assets a ha _ := by
    rw [mem_assets_withPairs]
    exact or_iff_left fun hm => absurd ha (Nat.not_le.mpr (h.later a hm))
  buffers i hi _ := by
    refine Table.get?_insertAll_of_notMem _ ?_
    rw [List.map_map]
    intro hm
    obtain ⟨p, hp, rfl⟩ := List.mem_map.mp hm
    exact absurd hi (Nat.not_le.mpr (h.buffer_later hp))
  memories i hi _ := by
    refine congrArg (Option.map Memory.shape) (Table.get?_insertAll_of_notMem _ ?_)
    rw [List.map_map]
    intro hm
    obtain ⟨p, hp, rfl⟩ := List.mem_map.mp hm
    exact absurd hi (Nat.not_le.mpr (h.memory_later hp))
  bindings {i b q} hb hq hle _ := by
    rcases Table.mem_of_get?_insertAll hb with hb | hb
    · exact ⟨b, hb, hq⟩
    · obtain ⟨p, hp, he⟩ := List.mem_map.mp hb
      cases he
      cases hq
      exact absurd hle (Nat.not_le.mpr (h.memory_later hp))

theorem Unchanged.frame {d' : Device} (h : Unchanged d d') (hi : d.issued ≤ d'.issued) :
    Frame d d' [] [] :=
  .of_shapes hi h.properties h.buffers fun i => by rw [h.memories]

theorem Unchanged.assets {d' : Device} (h : Unchanged d d') : d'.assets = d.assets := by
  rw [Device.assets, h.buffers, h.memories, Device.assets]

/-- The pair is on the device, and nothing else is bound to its memory. -/
structure Present (d : Device) (p : BoundPair) : Prop where
  buffer : d.buffers.get? p.buffer = some p.bufferEntry.2
  memory : ∃ m, d.memories.get? p.memory = some m ∧ m.contents.size = p.room
  sole : ∀ i b q, d.buffers.get? i = some b → b.binding = some q → q.memory = p.memory →
    i = p.buffer

theorem Present.of_unchanged {d' : Device} {p : BoundPair} (h : Present d p)
    (hu : Unchanged d d') : Present d' p where
  buffer := hu.buffers ▸ h.buffer
  memory := hu.memories ▸ h.memory
  sole := hu.buffers ▸ h.sole

/-- Pairs that share a handle are one. -/
theorem Fresh.unique {p q : BoundPair} {ps : List BoundPair} (h : Fresh d ps) (hp : p ∈ ps)
    (hq : q ∈ ps) {a b : Asset} (ha : a ∈ p.assets) (hb : b ∈ q.assets)
    (hab : a.handle = b.handle) : p = q := by
  have hd := h.distinct
  rw [List.map_flatMap] at hd
  have hpair := (List.nodup_flatMap.mp hd).2
  have : Std.Symm (Function.onFun List.Disjoint fun p : BoundPair => p.assets.map Asset.handle) :=
    ⟨fun _ _ hdis _ hx hy => hdis hy hx⟩
  by_contra hne
  exact hpair.forall hp hq hne (List.mem_map_of_mem ha) (hab ▸ List.mem_map_of_mem hb)

/-- A pair's memory is there, and is all zeros. -/
theorem memory_withPairs {p : BoundPair} {ps : List BoundPair} (hd : d.Numbered)
    (h : Fresh d ps) (hp : p ∈ ps) :
    (d.withPairs ps).memories.get? p.memory = some p.memoryEntry.2 := by
  have hmemory {q : BoundPair} : .memory q.memory ∈ q.assets :=
    List.mem_cons_of_mem _ (List.mem_cons_self ..)
  obtain ⟨m, hm⟩ := (Table.exists_get?_insertAll (t := d.memories)).mpr
    (.inr ⟨_, List.mem_map_of_mem hp, rfl⟩)
  refine hm.trans (congrArg some ?_)
  rcases Table.mem_of_get?_insertAll hm with ho | hm
  · rw [show d.memories.get? p.memoryEntry.1 = none from
      hd.memory_absent (h.memory_later hp)] at ho
    cases ho
  · obtain ⟨q, hq, he⟩ := List.mem_map.mp hm
    rw [h.unique hp hq hmemory hmemory (congrArg Prod.fst he).symm]
    exact (congrArg Prod.snd he).symm

theorem present_withPairs {p : BoundPair} {ps : List BoundPair} (hd : d.Numbered)
    (h : Fresh d ps) (hp : p ∈ ps) : Present (d.withPairs ps) p := by
  have hbuffer : .buffer p.buffer ∈ p.assets := List.mem_cons_self ..
  have hmemory : .memory p.memory ∈ p.assets := List.mem_cons_of_mem _ (List.mem_cons_self ..)
  refine ⟨?_, ?_, ?_⟩
  · obtain ⟨b, hb⟩ := (Table.exists_get?_insertAll (t := d.buffers)).mpr
      (.inr ⟨_, List.mem_map_of_mem hp, rfl⟩)
    refine hb.trans (congrArg some ?_)
    rcases Table.mem_of_get?_insertAll hb with ho | hm
    · have habsent : d.buffers.get? p.bufferEntry.1 = none := hd.buffer_absent (h.buffer_later hp)
      rw [habsent] at ho
      cases ho
    · obtain ⟨q, hq, he⟩ := List.mem_map.mp hm
      rw [h.unique hp hq hbuffer (List.mem_cons_self ..) (congrArg Prod.fst he).symm]
      exact (congrArg Prod.snd he).symm
  · exact ⟨_, memory_withPairs hd h hp, rfl⟩
  · intro i b q hi hq hqm
    rcases Table.mem_of_get?_insertAll hi with ho | hm
    · have hle := hd.bindings ho hq
      rw [hqm] at hle
      exact absurd hle (Nat.not_le.mpr (h.memory_later hp))
    · obtain ⟨r, hr, he⟩ := List.mem_map.mp hm
      cases he
      cases hq
      rw [h.unique hp hr hmemory (List.mem_cons_of_mem _ (List.mem_cons_self ..)) hqm.symm]

/-- Releasing the first of the pairs leaves the others, and what there was before them. -/
theorem unchanged_release {d' : Device} {p : BoundPair} {ps : List BoundPair} (hd : d.Numbered)
    (hf : Fresh d (p :: ps)) (h : Unchanged (d.withPairs (p :: ps)) d') :
    Unchanged (d.withPairs ps) ((d'.destroyBuffer p.buffer).freeMemory p.memory) := by
  have hp : p ∈ p :: ps := List.mem_cons_self ..
  have hb0 := hd.buffer_absent (hf.buffer_later hp)
  have hm0 := hd.memory_absent (hf.memory_later hp)
  have hbn : p.buffer ∉ (ps.map BoundPair.bufferEntry).map Prod.fst := by
    rw [List.map_map]
    intro hm
    obtain ⟨q, hq, he⟩ := List.mem_map.mp hm
    exact (hf.handle_notMem (a := .buffer p.buffer) (List.mem_cons_self ..) q hq).1 he.symm
  have hmn : p.memory ∉ (ps.map BoundPair.memoryEntry).map Prod.fst := by
    rw [List.map_map]
    intro hm
    obtain ⟨q, hq, he⟩ := List.mem_map.mp hm
    exact (hf.handle_notMem (a := .memory p.memory)
      (List.mem_cons_of_mem _ (List.mem_cons_self ..)) q hq).2 he.symm
  have hbs : d'.buffers = (d.buffers.insert p.buffer p.bufferEntry.2).insertAll
      (ps.map BoundPair.bufferEntry) := h.buffers
  have hms : d'.memories = (d.memories.insert p.memory p.memoryEntry.2).insertAll
      (ps.map BoundPair.memoryEntry) := h.memories
  have hb : d'.buffers.get? p.buffer = some p.bufferEntry.2 := by
    rw [hbs, Table.get?_insertAll_of_notMem _ hbn, Table.get?_insert, if_pos rfl]
  have hm : d'.memories.get? p.memory = some p.memoryEntry.2 := by
    rw [hms, Table.get?_insertAll_of_notMem _ hmn, Table.get?_insert, if_pos rfl]
  have hs : ∀ i b q, d'.buffers.get? i = some b → b.binding = some q → q.memory = p.memory →
      i = p.buffer := by
    intro i b q hi hq he
    rw [hbs] at hi
    rcases Table.mem_of_get?_insertAll hi with hi | hi
    · rw [Table.get?_insert] at hi
      split at hi
      · assumption
      · have hle := hd.bindings hi hq
        rw [he] at hle
        exact absurd hle (Nat.not_le.mpr (hf.memory_later hp))
    · obtain ⟨r, hr, hre⟩ := List.mem_map.mp hi
      cases hre
      cases hq
      exact absurd he.symm (hf.handle_notMem (a := .memory p.memory)
        (List.mem_cons_of_mem _ (List.mem_cons_self ..)) r hr).2
  rw [release_of_sole hb (Nat.zero_lt_of_lt (hf.buffer_later hp)) hm
    (Nat.zero_lt_of_lt (hf.memory_later hp)) hs]
  refine ⟨h.properties, ?_, ?_, h.commandBuffers, h.hazards, h.violations⟩
  · rw [hbs]
    dsimp only
    rw [Table.erase_insertAll _ hbn, Table.erase_insert _ hb0]
    rfl
  · rw [hms]
    dsimp only
    rw [Table.erase_insertAll _ hmn, Table.erase_insert _ hm0]
    rfl

end Device
end TensorMemory
