import TensorMemory.Bytes

/-!
Blocks: runs of bytes that are described rather than laid out, by a size and the byte at each place.
A memory is one, and a block of zeros takes no more room for being large. `toBytes` is the view: a
slice of a block shows what `drop` and `take` leave of it, and a write changes the bytes that it
covers and no other.
-/

namespace TensorMemory

structure Block where
  size : Nat
  /-- The byte at a place. Places from the size on are no part of the block. -/
  byteAt : Nat → UInt8

namespace Block

/-- The bytes in order. -/
def toBytes (b : Block) : Bytes := (List.range b.size).map b.byteAt

def ofBytes (bytes : Bytes) : Block :=
  let laid := bytes.toArray
  ⟨laid.size, fun i => laid.getD i 0⟩

def zeros (n : Nat) : Block := ⟨n, fun _ => 0⟩

/-- So many times the same bytes. -/
def repeated (n : Nat) (chunk : Bytes) : Block :=
  let laid := chunk.toArray
  ⟨n * laid.size, fun i => laid.getD (i % laid.size) 0⟩

/-- The `length` bytes from `offset` on; fewer where the block ends before that. -/
def slice (b : Block) (offset length : Nat) : Block :=
  ⟨min length (b.size - offset), fun i => b.byteAt (offset + i)⟩

/-- The block with `chunk` in place of the bytes from `offset` on. What would lie past the end is
dropped. -/
def overwrite (b : Block) (offset : Nat) (chunk : Block) : Block :=
  ⟨b.size, fun i =>
    if offset ≤ i ∧ i < offset + chunk.size then chunk.byteAt (i - offset) else b.byteAt i⟩

@[simp] theorem length_toBytes (b : Block) : b.toBytes.length = b.size := by simp [toBytes]

theorem getElem?_toBytes (b : Block) (i : Nat) :
    b.toBytes[i]? = if i < b.size then some (b.byteAt i) else none := by
  by_cases h : i < b.size <;> simp [toBytes, h]

@[simp] theorem size_ofBytes (bytes : Bytes) : (ofBytes bytes).size = bytes.length := by
  simp [ofBytes]

@[simp] theorem toBytes_ofBytes (bytes : Bytes) : (ofBytes bytes).toBytes = bytes := by
  apply List.ext_getElem?
  intro i
  rw [getElem?_toBytes, size_ofBytes]
  by_cases h : i < bytes.length <;> simp [ofBytes, Array.getD, h]

@[simp] theorem size_zeros (n : Nat) : (zeros n).size = n := rfl

@[simp] theorem toBytes_zeros (n : Nat) : (zeros n).toBytes = List.replicate n 0 := by
  simp [toBytes, zeros, List.map_const']

/-- In a list that is repeated, places are told apart by the remainder only. -/
theorem getElem?_flatten_replicate {α : Type} (n : Nat) (xs : List α) (i : Nat) :
    (List.replicate n xs).flatten[i]? =
      if i < n * xs.length then xs[i % xs.length]? else none := by
  induction n generalizing i with
  | zero => simp
  | succ n ih =>
    rw [List.replicate_succ, List.flatten_cons, List.getElem?_append, Nat.succ_mul]
    by_cases h : i < xs.length
    · rw [if_pos h, if_pos (by omega), Nat.mod_eq_of_lt h]
    · rw [if_neg h, ih, Nat.mod_eq_sub_mod (show i ≥ xs.length by omega)]
      by_cases hn : i < n * xs.length + xs.length
      · rw [if_pos hn, if_pos (by omega)]
      · rw [if_neg hn, if_neg (by omega)]

@[simp] theorem toBytes_repeated (n : Nat) (chunk : Bytes) :
    (repeated n chunk).toBytes = (List.replicate n chunk).flatten := by
  apply List.ext_getElem?
  intro i
  rw [getElem?_toBytes, getElem?_flatten_replicate]
  by_cases h : i < n * chunk.length
  · have hm : i % chunk.length < chunk.length :=
      Nat.mod_lt _ (Nat.pos_of_ne_zero fun h0 => by simp [h0] at h)
    simp [repeated, Array.getD, h, hm]
  · simp [repeated, h]

theorem size_slice (b : Block) (offset length : Nat) :
    (b.slice offset length).size = min length (b.size - offset) := rfl

theorem toBytes_slice (b : Block) (offset length : Nat) :
    (b.slice offset length).toBytes = (b.toBytes.drop offset).take length := by
  apply List.ext_getElem?
  intro i
  rw [getElem?_toBytes, size_slice, List.getElem?_take, List.getElem?_drop, getElem?_toBytes]
  by_cases hl : i < length
  · by_cases hs : offset + i < b.size
    · rw [if_pos (by omega), if_pos hl, if_pos hs]
      rfl
    · rw [if_neg (by omega), if_pos hl, if_neg hs]
  · rw [if_neg (by omega), if_neg hl]

@[simp] theorem size_overwrite (b : Block) (offset : Nat) (chunk : Block) :
    (b.overwrite offset chunk).size = b.size := rfl

/-- A write changes the bytes it covers and no other. -/
theorem getElem?_toBytes_overwrite (b : Block) (offset : Nat) (chunk : Block) (i : Nat) :
    (b.overwrite offset chunk).toBytes[i]? =
      if offset ≤ i ∧ i < offset + chunk.size ∧ i < b.size then chunk.toBytes[i - offset]?
      else b.toBytes[i]? := by
  rw [getElem?_toBytes, size_overwrite, getElem?_toBytes, getElem?_toBytes]
  by_cases hb : i < b.size
  · by_cases hc : offset ≤ i ∧ i < offset + chunk.size
    · rw [if_pos hb, if_pos ⟨hc.1, hc.2, hb⟩, if_pos (by omega), overwrite]
      simp only [if_pos hc]
    · rw [if_pos hb, if_neg (fun h => hc ⟨h.1, h.2.1⟩), if_pos hb, overwrite]
      simp only [if_neg hc]
  · rw [if_neg hb, if_neg (fun h => hb h.2.2), if_neg hb]

/-- What was written is read back. -/
theorem toBytes_slice_overwrite (b : Block) (offset : Nat) (chunk : Block)
    (h : offset + chunk.size ≤ b.size) :
    ((b.overwrite offset chunk).slice offset chunk.size).toBytes = chunk.toBytes := by
  apply List.ext_getElem?
  intro i
  rw [toBytes_slice, List.getElem?_take, List.getElem?_drop, getElem?_toBytes_overwrite]
  by_cases hi : i < chunk.size
  · rw [if_pos hi, if_pos (by omega), show offset + i - offset = i by omega]
  · rw [if_neg hi, getElem?_toBytes, if_neg hi]

end Block
end TensorMemory
