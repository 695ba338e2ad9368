import TensorMemory.Proofs.Device.Bytes
import TensorMemory.Proofs.Device.Representation
import TensorMemory.Proofs.Tensor.HostWrites

/-!
Host view and buffer. The host reaches the bytes of a tensor through the mapping of a memory, the
device through the binding of a buffer, and nothing makes the two meet: a tensor maps its memory
from a fixed place on, wherever in it the buffer is bound. They are one and the same exactly if the
buffer is bound at that place (`transparent_iff`).
-/

namespace TensorMemory

namespace Device

/-- The first `size` bytes of the buffer are those of a live memory from `place` on. -/
structure Seats (d : Device) (buffer : Handle) (place : Place) (size : Nat) : Prop where
  bound : ∃ b, d.buffers.get? buffer = some b ∧ b.binding = some place ∧ size ≤ b.size
  backed : ∃ m, d.memories.get? place.memory = some m ∧ place.offset + size ≤ m.contents.size

variable {d : Device} {buffer : Handle} {place : Place} {size n : Nat}

namespace Seats

/-- Ranges of the buffer lie at their distance from the place where the buffer begins. -/
theorem locate (h : d.Seats buffer place size) {required : Mask} {offset : Nat} {p : Place}
    (hp : d.locate buffer required offset n = .ok p) :
    p = ⟨place.memory, place.offset + offset⟩ := by
  obtain ⟨b, hb, hbound, -⟩ := h.bound
  rw [Device.locate, hb] at hp
  dsimp only at hp
  rw [hbound] at hp
  dsimp only at hp
  split at hp
  · cases hp
  split at hp
  · cases hp
  split at hp
  · cases hp
    rfl
  · cases hp

theorem read (h : d.Seats buffer place size) : d.read buffer size = .ok (d.load place size) := by
  obtain ⟨b, hb, hbound, hlarge⟩ := h.bound
  obtain ⟨m, hm, -⟩ := h.backed
  have hlive : d.hasMemory place.memory = true := Table.contains_iff.mpr ⟨m, hm⟩
  rw [Device.read, Device.locate, hb]
  dsimp only
  rw [hbound, Mask.contains_empty, if_neg (by decide)]
  dsimp only
  rw [if_neg (by omega), if_pos hlive]
  rfl

/-- Storing bytes moves nothing. -/
theorem store (h : d.Seats buffer place size) (p : Place) (chunk : Block) :
    (d.store p chunk).Seats buffer place size where
  bound := h.bound
  backed := HasRoom.store h.backed p chunk

theorem load_store (h : d.Seats buffer place size) (chunk : Block) (offset : Nat)
    (hn : offset + chunk.size ≤ size) :
    ((d.store ⟨place.memory, place.offset + offset⟩ chunk).load
      ⟨place.memory, place.offset + offset⟩ chunk.size).toBytes = chunk.toBytes := by
  obtain ⟨m, hm, hroom⟩ := h.backed
  refine Device.load_store hm ?_
  show place.offset + offset + chunk.size ≤ _
  omega

end Seats
end Device

namespace Tensor

/-- What the host sees of the tensor is what the device has in the buffer, and what either of them
writes is what the other one reads. -/
structure Transparent (t : Tensor) (d : Device) (buffer : Handle) : Prop where
  seen : ∀ operation range, t.hostRange operation = .ok range →
    d.read buffer t.byteSize = .ok (d.load range.place range.length)
  elements : ∀ xs, t.elements d t.dtype = .ok xs →
    (d.read buffer t.byteSize).map (Element.decode t.dtype t.size) = .ok xs
  set : ∀ (dtype : ElementType) (xs : List (Element dtype)) (d' : Device),
    t.overwrite d xs = .ok d' →
    (d'.read buffer t.byteSize).map Block.toBytes = .ok (Element.encode xs)
  setBytes : ∀ (data : Block) (d' : Device), t.overwriteBytes d data = .ok d' →
    (d'.read buffer t.byteSize).map Block.toBytes = .ok data.toBytes
  /-- What is copied out of the buffer is what the host sees there. -/
  copiedOut : ∀ target (r : CopyRegion) d', r.sourceOffset + r.size ≤ t.byteSize →
    d.copyRegion buffer target r = .ok d' → ∀ operation range,
    t.hostRange operation = .ok range → ∃ writeTo, d' = d.store writeTo
      (d.load ⟨range.place.memory, range.place.offset + r.sourceOffset⟩ r.size)
  /-- What is copied into the buffer is what the host sees there afterwards. -/
  copiedIn : ∀ source (r : CopyRegion) d', r.targetOffset + r.size ≤ t.byteSize →
    d.copyRegion source buffer r = .ok d' → ∀ operation range,
    t.hostRange operation = .ok range → ∃ readFrom,
      d.locate source UsageFlags.transferSource r.sourceOffset r.size = .ok readFrom ∧
      (d'.load ⟨range.place.memory, range.place.offset + r.targetOffset⟩ r.size).toBytes =
        (d.load readFrom r.size).toBytes

variable {t : Tensor} {d : Device} {buffer memory : Handle} {offset shift : Nat}

/-- Bytes that the host writes elsewhere do not all arrive in the buffer. -/
theorem not_transparent
    (hr : ∀ operation, t.hostRange operation = .ok ⟨⟨memory, shift⟩, t.byteSize⟩)
    (h0 : 0 < t.byteSize) (hs : d.Seats buffer ⟨memory, offset⟩ t.byteSize) (hne : offset ≠ shift) :
    ¬t.Transparent d buffer := by
  intro h
  obtain ⟨m, hm, hroom⟩ := hs.backed
  -- one end of the buffer lies outside of what the host writes
  obtain ⟨j, hj, hout⟩ : ∃ j < t.byteSize,
      ¬(shift ≤ offset + j ∧ offset + j < shift + t.byteSize) := by
    rcases Nat.lt_or_gt_of_ne hne with hlt | hgt
    · exact ⟨0, h0, by omega⟩
    · exact ⟨t.byteSize - 1, by omega, by omega⟩
  -- the host writes a byte other than the one that is there
  have hset := h.setBytes ⟨t.byteSize, fun _ => m.contents.byteAt (offset + j) + 1⟩ _
    (overwriteBytes_of_range (hr _) rfl)
  rw [(hs.store _ _).read] at hset
  have hold := Device.getElem?_load_store hm hroom hj
    ⟨t.byteSize, fun _ => m.contents.byteAt (offset + j) + 1⟩ hout
  rw [Except.ok.inj hset, Block.getElem?_toBytes, if_pos hj, Option.some.injEq] at hold
  exact absurd (UInt8.add_eq_left.mp hold) (by decide)

theorem transparent (hr : ∀ operation, t.hostRange operation = .ok ⟨⟨memory, shift⟩, t.byteSize⟩)
    (hd : d.Coherent) (hs : d.Seats buffer ⟨memory, shift⟩ t.byteSize) :
    t.Transparent d buffer where
  seen operation range h := by
    cases (hr operation).symm.trans h
    exact hs.read
  elements xs h := by
    rw [Tensor.elements_eq] at h
    cases hv : t.view t.dtype with
    | error e =>
      rw [hv] at h
      cases h
    | ok v =>
      rw [hv] at h
      cases h
      obtain ⟨range, hrange, hv⟩ := bind_eq_ok_iff.1 hv
      obtain ⟨-, -, hv⟩ := bind_eq_ok_iff.1 hv
      cases (hr _).symm.trans hrange
      have hcount := t.byteSize_div_width
      unfold viewRange at hv
      split at hv
      · cases hv
        show _ = Except.ok (Element.decode t.dtype (t.byteSize / t.dtype.width)
          (d.load ⟨memory, shift⟩ (t.byteSize / t.dtype.width * t.dtype.width)))
        rw [hs.read, hcount]
        rfl
      · cases hv
  set dtype xs d' h := by
    obtain ⟨u, hu, h⟩ := bind_eq_ok_iff.1 h
    obtain ⟨range, hrange, h⟩ := bind_eq_ok_iff.1 h
    cases (hr _).symm.trans hrange
    have htype : dtype = t.dtype := by
      by_contra hne
      rw [Parts.checkType, if_neg hne] at hu
      cases hu
    split at h
    · next hlength =>
      cases h
      have hsize : (Block.ofBytes (Element.encode xs)).size = t.byteSize := by
        rw [Block.size_ofBytes, Element.length_encode, hlength, htype]
        rfl
      have hload := hs.load_store (.ofBytes (Element.encode xs)) 0 (by omega)
      rw [(hs.store _ _).read]
      rw [hsize, Block.toBytes_ofBytes] at hload
      exact congrArg Except.ok hload
    · cases h
  setBytes data d' h := by
    obtain ⟨range, hrange, h⟩ := bind_eq_ok_iff.1 h
    cases (hr _).symm.trans hrange
    split at h
    · next hsize =>
      cases h
      replace hsize : data.size = t.byteSize := hsize
      have hload := hs.load_store data 0 (by omega)
      rw [(hs.store _ _).read]
      rw [hsize] at hload
      exact congrArg Except.ok hload
    · cases h
  copiedOut target r d' hn h operation range hrange := by
    cases (hr operation).symm.trans hrange
    unfold Device.copyRegion at h
    split at h
    · cases h
    next readFrom hread =>
    split at h
    · cases h
    next writeTo _ =>
    cases h
    exact ⟨writeTo, by rw [hs.locate hread]⟩
  copiedIn source r d' hn h operation range hrange := by
    cases (hr operation).symm.trans hrange
    unfold Device.copyRegion at h
    split at h
    · cases h
    next readFrom hread =>
    split at h
    · cases h
    next writeTo hwrite =>
    cases h
    refine ⟨readFrom, hread, ?_⟩
    obtain ⟨m, hm, hinside⟩ := hd.locate hread
    have hsize := Device.size_load hm hinside
    have hload := hs.load_store (d.load readFrom r.size) r.targetOffset (by rw [hsize]; exact hn)
    rw [hs.locate hwrite]
    rwa [hsize] at hload

/-- Of a buffer that is bound to the memory which the tensor maps, the host sees the bytes if and
only if the buffer is bound where the mapping begins. -/
theorem transparent_iff
    (hr : ∀ operation, t.hostRange operation = .ok ⟨⟨memory, shift⟩, t.byteSize⟩)
    (hd : d.Coherent) (h0 : 0 < t.byteSize) (hs : d.Seats buffer ⟨memory, offset⟩ t.byteSize) :
    t.Transparent d buffer ↔ offset = shift := by
  constructor
  · intro h
    by_contra hne
    exact not_transparent hr h0 hs hne h
  · rintro rfl
    exact transparent hr hd hs

end Tensor
end TensorMemory
