import TensorMemory.Proofs.Table
import TensorMemory.Device.Basic

/-!
The bytes of a device: what a memory holds, what is loaded from a place, and what storing changes of
either.
-/

namespace TensorMemory

/-- From `offset` on `now` has the bytes of `chunk`, elsewhere those of `old`. -/
structure Bytes.Patched (old now : Bytes) (offset : Nat) (chunk : Bytes) : Prop where
  room : offset + chunk.length ≤ old.length
  length : now.length = old.length
  inside : ∀ k < chunk.length, now[offset + k]? = chunk[k]?
  outside : ∀ k, k < offset ∨ offset + chunk.length ≤ k → now[k]? = old[k]?

/-- Bytes that are there already change nothing. -/
theorem Bytes.Patched.unchanged {old now chunk : Bytes} {offset : Nat}
    (h : Patched old now offset chunk) (hsame : chunk = (old.drop offset).take chunk.length) :
    now = old := by
  apply List.ext_getElem?
  intro k
  by_cases hk : k < offset ∨ offset + chunk.length ≤ k
  · exact h.outside k hk
  · obtain ⟨j, rfl⟩ : ∃ j, k = offset + j := ⟨k - offset, by omega⟩
    have hj : chunk[j]? = ((old.drop offset).take chunk.length)[j]? := congrArg (·[j]?) hsame
    rw [h.inside j (by omega), hj, List.getElem?_take, if_pos (by omega), List.getElem?_drop]

/-- What was written is found again. -/
theorem Bytes.Patched.window {old now chunk : Bytes} {offset : Nat}
    (h : Patched old now offset chunk) : (now.drop offset).take chunk.length = chunk := by
  apply List.ext_getElem?
  intro k
  rw [List.getElem?_take, List.getElem?_drop]
  split
  · next hk => exact h.inside k hk
  · next hk => exact (List.getElem?_eq_none (Nat.not_lt.mp hk)).symm

theorem Block.patched_overwrite {b chunk : Block} {offset : Nat}
    (h : offset + chunk.size ≤ b.size) :
    Bytes.Patched b.toBytes (b.overwrite offset chunk).toBytes offset chunk.toBytes where
  room := by rwa [length_toBytes, length_toBytes]
  length := by rw [length_toBytes, length_toBytes, size_overwrite]
  inside k hk := by
    rw [length_toBytes] at hk
    rw [getElem?_toBytes_overwrite, if_pos (by omega), Nat.add_sub_cancel_left]
  outside k hk := by
    rw [length_toBytes] at hk
    rw [getElem?_toBytes_overwrite, if_neg (by omega)]

namespace Device

/-- The bytes of a memory. -/
def bytes? (d : Device) (i : Handle) : Option Bytes :=
  (d.memories.get? i).map (·.contents.toBytes)

theorem bytes?_eq_some {d : Device} {i : Handle} {bytes : Bytes} :
    d.bytes? i = some bytes ↔ ∃ m, d.memories.get? i = some m ∧ m.contents.toBytes = bytes :=
  Option.map_eq_some_iff

variable {d : Device} {place : Place} {n : Nat}

theorem toBytes_load {bytes : Bytes} (h : d.bytes? place.memory = some bytes) (n : Nat) :
    (d.load place n).toBytes = (bytes.drop place.offset).take n := by
  obtain ⟨m, hm, rfl⟩ := bytes?_eq_some.mp h
  rw [load, hm]
  exact Block.toBytes_slice ..

theorem memory_store {m : Memory} (hm : d.memories.get? place.memory = some m) (chunk : Block) :
    (d.store place chunk).memories.get? place.memory =
      some { m with contents := m.contents.overwrite place.offset chunk } := by
  rw [store, Table.get?_modify, if_pos rfl, hm]
  rfl

theorem bytes?_store_of_ne {i : Handle} (hi : i ≠ place.memory) (chunk : Block) :
    (d.store place chunk).bytes? i = d.bytes? i := by
  rw [bytes?, bytes?, store, Table.get?_modify, if_neg hi]

theorem patched_store {old : Bytes} (chunk : Block) (h : d.bytes? place.memory = some old)
    (hroom : place.offset + chunk.size ≤ old.length) :
    ∃ now, (d.store place chunk).bytes? place.memory = some now ∧
      Bytes.Patched old now place.offset chunk.toBytes := by
  obtain ⟨m, hm, rfl⟩ := bytes?_eq_some.mp h
  rw [Block.length_toBytes] at hroom
  exact ⟨_, bytes?_eq_some.mpr ⟨_, memory_store hm chunk, rfl⟩, Block.patched_overwrite hroom⟩

/-- Bytes that were stored are loaded again. -/
theorem load_store {m : Memory} {chunk : Block} (hm : d.memories.get? place.memory = some m)
    (hn : place.offset + chunk.size ≤ m.contents.size) :
    ((d.store place chunk).load place chunk.size).toBytes = chunk.toBytes := by
  rw [load, memory_store hm]
  exact Block.toBytes_slice_overwrite _ _ _ hn

/-- A byte past either end of what was stored is loaded as it was. -/
theorem getElem?_load_store {m : Memory} {memory : Handle} {offset shift j : Nat}
    (hm : d.memories.get? memory = some m) (hn : offset + n ≤ m.contents.size) (hj : j < n)
    (chunk : Block) (hout : ¬(shift ≤ offset + j ∧ offset + j < shift + chunk.size)) :
    ((d.store ⟨memory, shift⟩ chunk).load ⟨memory, offset⟩ n).toBytes[j]? =
      some (m.contents.byteAt (offset + j)) := by
  have hstored : (d.store ⟨memory, shift⟩ chunk).memories.get? memory =
      some { m with contents := m.contents.overwrite shift chunk } := memory_store hm chunk
  rw [load, hstored]
  dsimp only
  have hinside : j < ((m.contents.overwrite shift chunk).slice offset n).size := by
    rw [Block.size_slice, Block.size_overwrite]
    omega
  rw [Block.getElem?_toBytes, if_pos hinside]
  exact congrArg some (if_neg hout)

/-- As many bytes are loaded as the memory has there. -/
theorem size_load {m : Memory} (hm : d.memories.get? place.memory = some m)
    (hn : place.offset + n ≤ m.contents.size) : (d.load place n).size = n := by
  rw [load, hm]
  dsimp only
  rw [Block.size_slice]
  omega

/-! ## Room -/

/-- Of all memories only one has changed, and of that only the bytes from a place on, which are now
those of `chunk`. -/
structure Rewritten (d d' : Device) (place : Place) (chunk : Bytes) : Prop where
  patched : ∃ old now, d.bytes? place.memory = some old ∧ d'.bytes? place.memory = some now ∧
    Bytes.Patched old now place.offset chunk
  others : ∀ i, i ≠ place.memory → d'.bytes? i = d.bytes? i

variable {memory : Handle} {offset : Nat}

/-- There are `n` bytes from the place on. -/
def HasRoom (d : Device) (place : Place) (n : Nat) : Prop :=
  ∃ m, d.memories.get? place.memory = some m ∧ place.offset + n ≤ m.contents.size

theorem HasRoom.store (h : d.HasRoom ⟨memory, offset⟩ n) (place : Place) (chunk : Block) :
    (d.store place chunk).HasRoom ⟨memory, offset⟩ n := by
  obtain ⟨m, hm, hn⟩ := h
  rw [HasRoom, Device.store]
  dsimp only
  rw [Table.get?_modify, hm]
  split
  · exact ⟨_, rfl, hn⟩
  · exact ⟨m, rfl, hn⟩

theorem HasRoom.rewritten (h : d.HasRoom ⟨memory, offset⟩ n) (chunk : Block) {start : Nat}
    (hn : start + chunk.size ≤ offset + n) :
    d.Rewritten (d.store ⟨memory, start⟩ chunk) ⟨memory, start⟩ chunk.toBytes := by
  obtain ⟨m, hm, hroom⟩ := h
  have hbytes : d.bytes? memory = some m.contents.toBytes := bytes?_eq_some.mpr ⟨m, hm, rfl⟩
  have hfits : start + chunk.size ≤ m.contents.toBytes.length := by
    rw [Block.length_toBytes]
    exact Nat.le_trans hn hroom
  obtain ⟨now, hnow, hpatched⟩ : ∃ now, (d.store ⟨memory, start⟩ chunk).bytes? memory = some now ∧
      Bytes.Patched m.contents.toBytes now start chunk.toBytes := patched_store chunk hbytes hfits
  exact ⟨⟨_, now, hbytes, hnow, hpatched⟩, fun i hi => bytes?_store_of_ne hi chunk⟩

/-- What is stored over bytes that are the same changes nothing. -/
theorem HasRoom.bytes?_store {chunk : Block} (h : d.HasRoom ⟨memory, offset⟩ chunk.size)
    (hsame : chunk.toBytes = (d.load ⟨memory, offset⟩ chunk.size).toBytes) (i : Handle) :
    (d.store ⟨memory, offset⟩ chunk).bytes? i = d.bytes? i := by
  by_cases hi : i = memory
  · subst hi
    obtain ⟨⟨old, now, hold, hnow, hpatched⟩, -⟩ := h.rewritten chunk (Nat.le_refl _)
    rw [hnow, hold]
    refine congrArg some (hpatched.unchanged ?_)
    rw [Block.length_toBytes, hsame]
    exact toBytes_load hold _
  · exact bytes?_store_of_ne hi chunk

end Device
end TensorMemory
