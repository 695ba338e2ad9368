import TensorMemory.Proofs.Device.Bytes
import TensorMemory.Proofs.Tensor.Contents
import TensorMemory.Proofs.Tensor.Lifetime

/-!
Typed views. What the host writes to a tensor as elements are their bit patterns one after another,
from where the tensor is mapped on, and what it reads are the elements of which the bytes there are
the bit patterns; neither goes past the bytes of the tensor (`exactViews`). Whether an element can
start where the tensor is mapped decides only if there is a view of it.
-/

namespace TensorMemory

namespace Tensor

structure ExactViews (t : Tensor) (d : Device) (place : Place) : Prop where
  aligned : place.offset % t.dtype.width = 0 → t.view t.dtype = .ok (t.viewAt place) ∧
    t.viewMut t.dtype = .ok (t.viewAt place) ∧
    ∀ d', t.elements d' t.dtype = .ok ((t.viewAt place).elements d')
  misaligned : place.offset % t.dtype.width ≠ 0 →
    t.view t.dtype = .error (.misalignedView t.dtype) ∧
    t.viewMut t.dtype = .error (.misalignedView t.dtype) ∧
    ∀ d', t.elements d' t.dtype = .error (.misalignedView t.dtype)
  count : ∀ d', ((t.viewAt place).elements d').length = t.size
  /-- Elements become the bytes of the tensor, and are read again. -/
  overwrite : ∀ xs : List (Element t.dtype), xs.length = t.size → ∃ d',
    t.overwrite d xs = .ok d' ∧ d.Rewritten d' place (Element.encode xs) ∧
      (t.viewAt place).elements d' = xs
  /-- Bytes become those of the tensor, and are the same when the elements that are read then are
  written again. -/
  overwriteBytes : ∀ data : Block, data.size = t.byteSize → ∃ d',
    t.overwriteBytes d data = .ok d' ∧ d.Rewritten d' place data.toBytes ∧ ∃ d'',
      t.overwrite d' ((t.viewAt place).elements d') = .ok d'' ∧ ∀ i, d''.bytes? i = d'.bytes? i
  set : ∀ i x, i < t.size → d.Rewritten ((t.viewAt place).set d i x)
    ⟨place.memory, place.offset + i * t.dtype.width⟩ x.bytes
  put : place.offset % t.dtype.width = 0 → ∀ i x, t.put d i x =
    if i < t.size then .ok ((t.viewAt place).set d i x) else .error (.outOfRange t.size i)
  outside : ∀ i x, t.size ≤ i → (t.viewAt place).set d i x = d

variable {t : Tensor} {d : Device} {place : Place}

theorem size_encode {xs : List (Element t.dtype)} (hn : xs.length = t.size) :
    (Block.ofBytes (Element.encode xs)).size = t.byteSize := by
  rw [Block.size_ofBytes, Element.length_encode, hn]
  rfl

/-- Written elements are read again. -/
theorem elements_store (hroom : d.HasRoom place t.byteSize) {xs : List (Element t.dtype)}
    (hn : xs.length = t.size) :
    (t.viewAt place).elements (d.store place (.ofBytes (Element.encode xs))) = xs := by
  obtain ⟨m, hm, hfits⟩ := hroom
  have hload : ((d.store place (.ofBytes (Element.encode xs))).load place t.byteSize).toBytes =
      (Block.ofBytes (Element.encode xs)).toBytes := by
    rw [← size_encode hn] at hfits ⊢
    exact Device.load_store hm hfits
  calc (t.viewAt place).elements (d.store place (.ofBytes (Element.encode xs)))
      _ = Element.decode t.dtype t.size (.ofBytes (Element.encode xs)) :=
        Element.decode_congr hload _
      _ = xs := by rw [← hn, Element.decode_encode]

/-- The elements that are read are laid out as the bytes are. -/
theorem encode_elements (hroom : d.HasRoom place t.byteSize) :
    Element.encode ((t.viewAt place).elements d) = (d.load place t.byteSize).toBytes := by
  obtain ⟨m, hm, hfits⟩ := hroom
  have hsize : (d.load place t.byteSize).size = t.byteSize := Device.size_load hm hfits
  calc Element.encode ((t.viewAt place).elements d)
      _ = (d.load place t.byteSize).toBytes.take t.byteSize :=
        Element.encode_decode (Nat.le_of_eq hsize.symm)
      _ = (d.load place t.byteSize).toBytes :=
        List.take_of_length_le (Nat.le_of_eq ((Block.length_toBytes _).trans hsize))

/-- Where a tensor is mapped to live memory, its views are exact. -/
theorem exactViews (hk : t.kind ≠ .storage) (hp : t.mapping? = some place)
    (hroom : d.HasRoom place t.byteSize) : t.ExactViews d place where
  aligned ha := by
    have hr := hostRange_mapped hk hp
    refine ⟨?_, ?_, fun d' => elements_of_range d' (hr _) ha⟩
    · rw [view_of_range (hr _), if_pos ha]
    · rw [viewMut_of_range (hr _), if_pos ha]
  misaligned ha := by
    have hr := hostRange_mapped hk hp
    refine ⟨?_, ?_, fun d' => ?_⟩
    · rw [view_of_range (hr _), if_neg ha]
    · rw [viewMut_of_range (hr _), if_neg ha]
    · rw [elements_eq, view_of_range (hr _), if_neg ha]
      rfl
  count d' := Element.length_decode ..
  overwrite xs hn := by
    refine ⟨_, overwrite_of_range (hostRange_mapped hk hp _) hn d, ?_, elements_store hroom hn⟩
    have hrewritten := hroom.rewritten (.ofBytes (Element.encode xs))
      (Nat.le_of_eq (congrArg _ (size_encode hn)))
    rwa [Block.toBytes_ofBytes] at hrewritten
  overwriteBytes data hn := by
    have hroom' := hroom.store place data
    have hlength : ((t.viewAt place).elements (d.store place data)).length = t.size :=
      Element.length_decode ..
    have hr := hostRange_mapped hk hp
    refine ⟨_, overwriteBytes_of_range (hr _) hn, ?_, _, overwrite_of_range (hr _) hlength _, ?_⟩
    · exact hroom.rewritten data (Nat.le_of_eq (congrArg _ hn))
    · refine Device.HasRoom.bytes?_store ?_ ?_
      · rw [size_encode hlength]
        exact hroom'
      · rw [size_encode hlength, Block.toBytes_ofBytes]
        exact encode_elements hroom'
  set i x hi := by
    have hend : place.offset + i * t.dtype.width + (Block.ofBytes x.bytes).size ≤
        place.offset + t.byteSize := by
      rw [Block.size_ofBytes, Element.length_bytes, Nat.add_assoc, ← Nat.succ_mul]
      exact Nat.add_le_add_left (Nat.mul_le_mul_right _ hi) _
    have hset : (t.viewAt place).set d i x =
        d.store ⟨place.memory, place.offset + i * t.dtype.width⟩ (.ofBytes x.bytes) := if_pos hi
    have hrewritten := hroom.rewritten (.ofBytes x.bytes) hend
    rw [Block.toBytes_ofBytes] at hrewritten
    rw [hset]
    exact hrewritten
  put ha i x := by
    have hview : t.parts.viewMut t.parts.dtype = .ok (t.viewAt place) :=
      (viewMut_of_range (hostRange_mapped hk hp _)).trans (if_pos ha)
    rw [Tensor.put, Parts.put, hview]
    rfl
  outside i x hi := if_neg (Nat.not_lt.mpr hi)

/-! ## Lengths -/

/-- The lengths that accesses rely on: sizes do not overflow, a view cuts no element in two, and
what is copied is as long as what it is copied over. -/
structure Proportioned (t : Tensor) : Prop where
  bounded : t.byteSize < UInt32.size
  whole : ∀ operation dtype r, t.hostRange operation = .ok r → t.checkType dtype = .ok () →
    r.length % dtype.width = 0
  overwrite : ∀ d dtype (xs : List (Element dtype)) d', t.overwrite d xs = .ok d' →
    ∃ r, t.hostRange "set_data" = .ok r ∧ (Element.encode xs).length = r.length ∧
      d' = d.store r.place (.ofBytes (Element.encode xs))
  overwriteBytes : ∀ d data d', t.overwriteBytes d data = .ok d' →
    ∃ r, t.hostRange "set_raw_data" = .ok r ∧ data.size = r.length ∧ d' = d.store r.place data

theorem checkType_ok {dtype : ElementType} (h : t.checkType dtype = .ok ()) : dtype = t.dtype := by
  rw [checkType_eq] at h
  split at h
  · assumption
  · cases h

theorem Consistent.proportioned (h : t.Consistent) : t.Proportioned where
  bounded := h.bounded
  whole operation dtype r hr hd := by
    rw [checkType_ok hd, (hostRange_ok hr).2]
    exact Nat.mul_mod_left ..
  overwrite d dtype xs d' ho := by
    obtain ⟨⟨⟩, hd, ho⟩ := bind_eq_ok_iff.1 ho
    obtain ⟨r, hr, ho⟩ := bind_eq_ok_iff.1 ho
    split at ho
    · next hn =>
      cases ho
      refine ⟨r, hr, ?_, rfl⟩
      rw [Element.length_encode, hn, (hostRange_ok hr).2, checkType_ok hd]
      rfl
    · cases ho
  overwriteBytes d data d' ho := by
    obtain ⟨r, hr, ho⟩ := bind_eq_ok_iff.1 ho
    split at ho
    · next hn =>
      cases ho
      exact ⟨r, hr, hn, rfl⟩
    · cases ho

end Tensor
end TensorMemory
