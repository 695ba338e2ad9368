import TensorMemory.Proofs.Device.Pair

/-!
Creating a buffer together with its memory. Such a request ends in one of four ways, and what the
device offers decides in which (`ending`). It is granted whole, or it is refused and leaves nothing
behind, with one exception: when the budget for allocations is spent, the buffer has been created by
then and stays (`creation`).
-/

namespace TensorMemory.Device

/-- Some memory type of the device has the flags. -/
def Offers (d : Device) (flags : Mask) : Prop :=
  ∃ i < d.properties.count, (d.properties.slot i).flags.contains flags = true

/-- How much memory a buffer of a size needs. -/
def roomFor (size : Nat) : Nat := (size + alignmentBytes - 1) / alignmentBytes * alignmentBytes

theorem le_roomFor (size : Nat) : size ≤ roomFor size := by
  simp only [roomFor, alignmentBytes]
  omega

/-- The device with one more buffer, bound to nothing. -/
def withBuffer (d : Device) (size : Nat) (usage : Mask) : Device :=
  { d with
    issued := d.issued + 1
    buffers := d.buffers.insert (d.issued + 1) ⟨size, usage, none⟩ }

/-- The device with a memory on top of that, as large as the buffer needs. -/
def withRoom (d : Device) (size : Nat) (usage : Mask) (typeIndex : Nat) : Device :=
  { d.withBuffer size usage with
    issued := d.issued + 2
    allocationBudget := d.allocationBudget.map (· - 1)
    memories := d.memories.insert (d.issued + 2) ⟨.zeros (roomFor size), typeIndex, false⟩ }

/-- The device with both, the buffer bound to the memory. -/
def withBound (d : Device) (size : Nat) (usage : Mask) (typeIndex : Nat) : Device :=
  { d.withRoom size usage typeIndex with
    buffers := d.buffers.insert (d.issued + 1) ⟨size, usage, some ⟨d.issued + 2, 0⟩⟩ }

variable {d : Device} {size typeIndex : Nat} {usage flags : Mask}

/-! ## The calls of a request -/

theorem createBuffer_withBuffer (d : Device) (usage : Mask) (h : 0 < size) :
    d.createBuffer size usage = (.ok (d.issued + 1), d.withBuffer size usage) :=
  createBuffer_of_pos d usage h

theorem requirements_withBuffer (d : Device) (size : Nat) (usage : Mask) :
    (d.withBuffer size usage).requirements (d.issued + 1) =
      (⟨roomFor size, alignmentBytes, d.properties.typeBits⟩, d.withBuffer size usage) := by
  rw [requirements, withBuffer]
  dsimp only
  rw [Table.get?_insert, if_pos rfl]
  rfl

theorem allocate_withBuffer (usage : Mask) (h : typeIndex < d.properties.count) :
    (d.withBuffer size usage).allocate (roomFor size) typeIndex =
      if d.allocationBudget = some 0 then (.error .outOfDeviceMemory, d.withBuffer size usage)
      else (.ok (d.issued + 2), d.withRoom size usage typeIndex) := by
  rw [allocate, if_neg (show ¬(d.withBuffer size usage).properties.count ≤ typeIndex from
    Nat.not_le.mpr h)]
  rfl

/-- The memory has room for the buffer, so that nothing stands in the way of binding it. -/
theorem bind_withRoom (hd : d.Numbered) (size : Nat) (usage : Mask) (typeIndex : Nat) :
    (d.withRoom size usage typeIndex).bind (d.issued + 1) (d.issued + 2) 0 =
      (.ok (), d.withBound size usage typeIndex) := by
  have hbuffer : (d.withRoom size usage typeIndex).buffers.get? (d.issued + 1) =
      some ⟨size, usage, none⟩ := by
    rw [withRoom, withBuffer, Table.get?_insert, if_pos rfl]
  have hmemory : (d.withRoom size usage typeIndex).memories.get? (d.issued + 2) =
      some ⟨.zeros (roomFor size), typeIndex, false⟩ := by
    rw [withRoom, Table.get?_insert, if_pos rfl]
  have hroom : ¬(Block.zeros (roomFor size)).size < 0 + size := by
    have := le_roomFor size
    simpa using this
  have hmodify := Table.modify_insert (t := d.buffers) (k := d.issued + 1) ⟨size, usage, none⟩
    (fun b => { b with binding := some ⟨d.issued + 2, 0⟩ })
    (hd.buffer_absent (Nat.lt_succ_self _))
  rw [bind, hmemory, hbuffer]
  dsimp only
  rw [if_neg (by simp), if_neg hroom, withBound, ← hmodify]
  rfl

/-! ## How a request ends -/

/-- The ways in which a request for a buffer with memory of its own ends. -/
inductive Ending (d : Device) (size : Nat) (usage flags : Mask) :
    Except Status (Handle × Handle) × Device → Prop
  | noType (h : ¬d.Offers flags) : Ending d size usage flags (.error .featureNotPresent, d)
  | empty (h : d.Offers flags) (hsize : size = 0) :
      Ending d size usage flags (.error .validationFailed, d.violate .emptyBuffer)
  | spent (h : d.Offers flags) (hsize : 0 < size) (hbudget : d.allocationBudget = some 0) :
      Ending d size usage flags (.error .outOfDeviceMemory, d.withBuffer size usage)
  | granted {i : Nat} (hi : i < d.properties.count)
      (hflags : (d.properties.slot i).flags.contains flags = true) (hsize : 0 < size)
      (hbudget : d.allocationBudget ≠ some 0) :
      Ending d size usage flags (.ok (d.issued + 1, d.issued + 2), d.withBound size usage i)

theorem ending (hd : d.Numbered) (size : Nat) (usage flags : Mask) :
    d.Ending size usage flags (d.createBound size usage flags) := by
  unfold createBound
  split
  · next hnone =>
    refine .noType ?_
    rintro ⟨i, hi, hflags⟩
    have hno := List.find?_range_eq_none.mp hnone i hi
    rw [hflags] at hno
    cases hno
  next i hsome =>
  obtain ⟨hflags, hi, -⟩ := List.find?_range_eq_some.mp hsome
  rw [List.mem_range] at hi
  rcases Nat.eq_zero_or_pos size with hzero | hpos
  · rw [createBuffer, if_pos hzero]
    exact .empty ⟨i, hi, hflags⟩ hzero
  simp only [createBuffer_withBuffer d usage hpos, requirements_withBuffer,
    allocate_withBuffer usage hi]
  by_cases hbudget : d.allocationBudget = some 0
  · rw [if_pos hbudget]
    exact .spent ⟨i, hi, hflags⟩ hpos hbudget
  · rw [if_neg hbudget]
    simp only [bind_withRoom hd]
    exact .granted hi hflags hpos hbudget

/-- What a request leaves behind. Granted, it is one buffer and one memory, neither of them there
before, the buffer bound at the start of the memory and the memory of a type that has the flags.
Refused, nothing has changed among the buffers and memories, unless it is the allocation that was
refused: then there is one buffer more, bound to nothing. -/
theorem creation (types : List Mask) (ops : List Operation) (size : Nat) (usage flags : Mask) :
    let d := (ofTypes types).run ops
    match d.createBound size usage flags with
    | (.ok (buffer, memory), d') =>
      (d.Offers flags ∧ 0 < size ∧ d.allocationBudget ≠ some 0) ∧
        (d.buffers.get? buffer = none ∧
          d'.buffers = d.buffers.insert buffer ⟨size, usage, some ⟨memory, 0⟩⟩) ∧
        d.memories.get? memory = none ∧
        ∃ typeIndex < d.properties.count,
          d'.memories = d.memories.insert memory ⟨.zeros (roomFor size), typeIndex, false⟩ ∧
          (d'.properties.slot typeIndex).flags.contains flags = true
    | (.error s, d') =>
      (s = .featureNotPresent ∧ ¬d.Offers flags ∨
        s = .validationFailed ∧ d.Offers flags ∧ size = 0 ∨
        s = .outOfDeviceMemory ∧ d.Offers flags ∧ 0 < size ∧ d.allocationBudget = some 0) ∧
      d'.memories = d.memories ∧
      if s = .outOfDeviceMemory then
        ∃ buffer, d.buffers.get? buffer = none ∧
          d'.buffers = d.buffers.insert buffer ⟨size, usage, none⟩
      else d'.buffers = d.buffers := by
  intro d
  have hd : d.Numbered := (Numbered.ofTypes types).run ops
  have hend := ending hd size usage flags
  generalize d.createBound size usage flags = result at hend ⊢
  cases hend with
  | noType h => exact ⟨.inl ⟨rfl, h⟩, rfl, rfl⟩
  | empty h hsize => exact ⟨.inr (.inl ⟨rfl, h, hsize⟩), rfl, rfl⟩
  | spent h hsize hbudget =>
    exact ⟨.inr (.inr ⟨rfl, h, hsize, hbudget⟩), rfl, _,
      hd.buffer_absent (Nat.lt_succ_self _), rfl⟩
  | @granted i hi hflags hsize hbudget =>
    exact ⟨⟨⟨i, hi, hflags⟩, hsize, hbudget⟩, ⟨hd.buffer_absent (Nat.lt_succ_self _), rfl⟩,
      hd.memory_absent (Nat.lt_succ_of_lt (Nat.lt_succ_self _)), i, hi, rfl, hflags⟩

/-- A device whose budget was spent before the request keeps the buffer of the request it
refuses. -/
theorem creation_spentBudget :
    let d := (ofTypes [⟨6⟩]).run [.limitAllocations 0]
    let result := d.createBound 4 ⟨3⟩ ⟨6⟩
    result.1 = .error .outOfDeviceMemory ∧ d.assets = [] ∧
      result.2.assets = [.buffer 1] := by
  decide

end TensorMemory.Device
