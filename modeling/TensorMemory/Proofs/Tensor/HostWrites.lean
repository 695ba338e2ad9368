import TensorMemory.Proofs.Outcome
import TensorMemory.Proofs.Table
import TensorMemory.Tensor.View

/-!
Host writes. Every way in which the host writes to a tensor ends in one block stored in the memory
where the tensor is mapped, and every way in which it reads the tensor looks at that memory alone;
so tensors with different memories do not see each other's writes (`HostWrite.unseen`).
-/

namespace TensorMemory

/-! ## Where a tensor is mapped -/

namespace Parts

variable {p : Parts}

theorem hostRange_ok {operation : String} {r : HostRange} (h : p.hostRange operation = .ok r) :
    p.mapping? = some r.place ∧ r.length = p.byteSize := by
  unfold hostRange at h
  split at h
  · cases h
  split at h
  · next place hp =>
    cases h
    exact ⟨hp, rfl⟩
  · cases h

theorem hostRange_mapped {place : Place} (hk : p.kind ≠ .storage) (hp : p.mapping? = some place)
    (operation : String) : p.hostRange operation = .ok ⟨place, p.byteSize⟩ := by
  simp [hostRange, hp, Placement.isHostVisible, hk]

/-- The bytes of a tensor are those of its elements. -/
theorem byteSize_div_width (p : Parts) : p.byteSize / p.dtype.width = p.size :=
  Nat.mul_div_cancel _ p.dtype.width_pos

theorem checkType_self (p : Parts) : p.checkType p.dtype = .ok () := if_pos rfl

theorem view_self (p : Parts) :
    p.view p.dtype = p.hostRange "data" >>= Tensor.viewRange p.dtype := by
  simp only [view, checkType_self]
  rfl

theorem viewMut_self (p : Parts) :
    p.viewMut p.dtype = p.hostRange "data_mut" >>= Tensor.viewRange p.dtype := by
  simp only [viewMut, checkType_self]
  rfl

theorem overwrite_self (p : Parts) (d : Device) (xs : List (Element p.dtype)) :
    p.overwrite d xs = p.hostRange "set_data" >>= fun r =>
      if xs.length = p.size then pure (d.store r.place (.ofBytes (Element.encode xs)))
      else throw (.dimensionMismatch p.size xs.length) := by
  simp only [overwrite, checkType_self]
  rfl

end Parts

namespace Tensor

/-- The ways in which the host writes: all elements, all bytes, or one element, indexed in the
tensor or in a view of it. -/
inductive HostWrite (t : Tensor) (d : Device) : Device → Prop
  | overwrite {dtype : ElementType} {xs : List (Element dtype)} {d' : Device}
      (granted : t.overwrite d xs = .ok d') : HostWrite t d d'
  | overwriteBytes {data : Block} {d' : Device} (granted : t.overwriteBytes d data = .ok d') :
      HostWrite t d d'
  | put {i : Nat} {x : Element t.dtype} {d' : Device} (granted : t.put d i x = .ok d') :
      HostWrite t d d'
  | set {dtype : ElementType} {v : HostView dtype} (granted : t.viewMut dtype = .ok v) (i : Nat)
      (x : Element dtype) : HostWrite t d (v.set d i x)

/-- All that the host can read of a tensor is the same on both devices. -/
structure LooksSame (t : Tensor) (d d' : Device) : Prop where
  bytes : ∀ operation r, t.hostRange operation = .ok r →
    d'.load r.place r.length = d.load r.place r.length
  elements : ∀ dtype, t.elements d' dtype = t.elements d dtype
  element : ∀ i, t.get d' i = t.get d i

variable {t : Tensor} {d d' : Device}

/-! ## The range that is mapped -/

theorem hostRange_ok {operation : String} {r : HostRange} (h : t.hostRange operation = .ok r) :
    t.mapping? = some r.place ∧ r.length = t.byteSize := Parts.hostRange_ok h

theorem hostRange_mapped {place : Place} (hk : t.kind ≠ .storage) (hp : t.mapping? = some place)
    (operation : String) : t.hostRange operation = .ok ⟨place, t.byteSize⟩ :=
  Parts.hostRange_mapped (p := t.parts) hk hp operation

theorem byteSize_div_width (t : Tensor) : t.byteSize / t.dtype.width = t.size :=
  t.parts.byteSize_div_width

/-- The whole of a tensor that is mapped at a place. -/
def viewAt (t : Tensor) (place : Place) : HostView t.dtype := ⟨place, t.size⟩

theorem viewRange_whole (t : Tensor) (place : Place) :
    viewRange t.dtype ⟨place, t.byteSize⟩ =
      if place.offset % t.dtype.width = 0 then .ok (t.viewAt place)
      else .error (.misalignedView t.dtype) := by
  rw [viewRange, t.byteSize_div_width]
  rfl

section Range

variable {t : Tensor} {place : Place}

theorem view_of_range (hr : t.hostRange "data" = .ok ⟨place, t.byteSize⟩) : t.view t.dtype =
    if place.offset % t.dtype.width = 0 then .ok (t.viewAt place)
    else .error (.misalignedView t.dtype) := by
  rw [show t.view t.dtype = t.hostRange "data" >>= viewRange t.dtype from t.parts.view_self, hr,
    ← viewRange_whole]
  rfl

theorem viewMut_of_range (hr : t.hostRange "data_mut" = .ok ⟨place, t.byteSize⟩) :
    t.viewMut t.dtype =
      if place.offset % t.dtype.width = 0 then .ok (t.viewAt place)
      else .error (.misalignedView t.dtype) := by
  rw [show t.viewMut t.dtype = t.hostRange "data_mut" >>= viewRange t.dtype from
    t.parts.viewMut_self, hr, ← viewRange_whole]
  rfl

/-- What the host sees as elements, if one can start where the tensor is mapped. -/
theorem elements_of_range (d : Device) (hr : t.hostRange "data" = .ok ⟨place, t.byteSize⟩)
    (ha : place.offset % t.dtype.width = 0) :
    t.elements d t.dtype = .ok (Element.decode t.dtype t.size (d.load place t.byteSize)) := by
  rw [elements_eq, view_of_range hr, if_pos ha]
  rfl

theorem overwrite_of_range (hr : t.hostRange "set_data" = .ok ⟨place, t.byteSize⟩)
    {xs : List (Element t.dtype)} (hn : xs.length = t.size) (d : Device) :
    t.overwrite d xs = .ok (d.store place (.ofBytes (Element.encode xs))) := by
  refine (t.parts.overwrite_self d xs).trans ?_
  rw [show t.parts.hostRange "set_data" = _ from hr]
  exact if_pos hn

end Range

theorem viewRange_place {dtype : ElementType} {r : HostRange} {v : HostView dtype}
    (h : viewRange dtype r = .ok v) : v.place = r.place := by
  unfold viewRange at h
  split at h
  · cases h
    rfl
  · cases h

theorem view_place {dtype : ElementType} {v : HostView dtype} (h : t.view dtype = .ok v) :
    t.mapping? = some v.place := by
  obtain ⟨r, hr, h⟩ := bind_eq_ok_iff.1 h
  obtain ⟨-, -, h⟩ := bind_eq_ok_iff.1 h
  rw [viewRange_place h]
  exact (hostRange_ok hr).1

theorem viewMut_place {dtype : ElementType} {v : HostView dtype} (h : t.viewMut dtype = .ok v) :
    t.mapping? = some v.place := by
  obtain ⟨-, -, h⟩ := bind_eq_ok_iff.1 h
  obtain ⟨r, hr, h⟩ := bind_eq_ok_iff.1 h
  rw [viewRange_place h]
  exact (hostRange_ok hr).1

/-! ## Writing -/

theorem overwrite_stores {dtype : ElementType} {xs : List (Element dtype)}
    (h : t.overwrite d xs = .ok d') :
    ∃ place chunk, t.mapping? = some place ∧ d' = d.store place chunk := by
  obtain ⟨-, -, h⟩ := bind_eq_ok_iff.1 h
  obtain ⟨r, hr, h⟩ := bind_eq_ok_iff.1 h
  split at h
  · cases h
    exact ⟨_, _, (hostRange_ok hr).1, rfl⟩
  · cases h

theorem overwriteBytes_stores {data : Block} (h : t.overwriteBytes d data = .ok d') :
    ∃ place chunk, t.mapping? = some place ∧ d' = d.store place chunk := by
  obtain ⟨r, hr, h⟩ := bind_eq_ok_iff.1 h
  split at h
  · cases h
    exact ⟨_, _, (hostRange_ok hr).1, rfl⟩
  · cases h

theorem overwriteBytes_of_range {place : Place}
    (hr : t.hostRange "set_raw_data" = .ok ⟨place, t.byteSize⟩) {data : Block}
    (hn : data.size = t.byteSize) : t.overwriteBytes d data = .ok (d.store place data) := by
  rw [overwriteBytes_eq, hr]
  exact if_pos hn

theorem store_spares (d : Device) {place : Place} (chunk : Block) {i : Handle}
    (hi : i ≠ place.memory) : (d.store place chunk).memories.get? i = d.memories.get? i := by
  rw [Device.store, Table.get?_modify, if_neg hi]

theorem set_spares {dtype : ElementType} (v : HostView dtype) (d : Device) (j : Nat)
    (x : Element dtype) {i : Handle} (hi : i ≠ v.place.memory) :
    (v.set d j x).memories.get? i = d.memories.get? i := by
  unfold HostView.set
  split
  · exact store_spares d _ hi
  · rfl

/-- Only a mapped tensor is written to, and no memory but its own is. -/
theorem HostWrite.spares (h : t.HostWrite d d') : ∃ place, t.mapping? = some place ∧
    ∀ i, i ≠ place.memory → d'.memories.get? i = d.memories.get? i := by
  cases h with
  | overwrite granted =>
    obtain ⟨place, chunk, hp, rfl⟩ := overwrite_stores granted
    exact ⟨place, hp, fun i hi => store_spares d chunk hi⟩
  | overwriteBytes granted =>
    obtain ⟨place, chunk, hp, rfl⟩ := overwriteBytes_stores granted
    exact ⟨place, hp, fun i hi => store_spares d chunk hi⟩
  | @put j x d' granted =>
    unfold Tensor.put Parts.put at granted
    split at granted
    · cases granted
    next v hv =>
    split at granted
    · cases granted
      exact ⟨v.place, viewMut_place hv, fun i hi => set_spares v d j x hi⟩
    · cases granted
  | @set dtype v granted j x =>
    exact ⟨v.place, viewMut_place granted, fun i hi => set_spares v d j x hi⟩

/-! ## Reading -/

/-- The host sees nothing but the memory where the tensor is mapped. -/
theorem looksSame_of_memory (h : ∀ place, t.mapping? = some place →
    d'.memories.get? place.memory = d.memories.get? place.memory) : t.LooksSame d d' := by
  have hload {place : Place} (hp : t.mapping? = some place) (n : Nat) :
      d'.load place n = d.load place n := by rw [Device.load, Device.load, h place hp]
  have hblock {dtype : ElementType} {v : HostView dtype} (hv : t.view dtype = .ok v) :
      v.block d' = v.block d := hload (view_place hv) _
  refine ⟨fun operation r hr => hload (hostRange_ok hr).1 _, fun dtype => ?_, fun i => ?_⟩
  · rw [elements_eq, elements_eq]
    cases hv : t.view dtype with
    | error e => rfl
    | ok v => exact congrArg (fun b => Except.ok (Element.decode dtype v.count b)) (hblock hv)
  · unfold Tensor.get Parts.get
    cases hv : t.parts.view t.dtype with
    | error e => rfl
    | ok v =>
      dsimp only
      rw [HostView.get?, HostView.get?, hblock hv]

/-- A write to a tensor does not show in one that is mapped elsewhere. -/
theorem HostWrite.unseen {u : Tensor} (h : t.HostWrite d d')
    (hapart : ∀ p q, t.mapping? = some p → u.mapping? = some q → p.memory ≠ q.memory) :
    u.LooksSame d d' := by
  obtain ⟨p, hp, hspares⟩ := h.spares
  exact looksSame_of_memory fun q hq => hspares _ (hapart p q hp hq).symm

end Tensor
end TensorMemory
