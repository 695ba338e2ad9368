import TensorMemory.Proofs.Tensor.Construction

/-!
Layouts. A plan is consistent about a number of elements when its element size is that of its type,
the elements fill less than the limit, and its data, if there is any, is as long as they are; it is
then laid out so. Data alone says how many elements there are, if it is some of them and nothing
else (`layout_of_divides`, `layout_of_misfit`).
-/

namespace TensorMemory

variable {dtype : ElementType} {n : Nat}

theorem checkLayout_of_fits {dataLength : Option Nat} (h0 : 0 < n)
    (hlt : n * dtype.width < sizeLimit) (hd : ∀ l ∈ dataLength, l = n * dtype.width) :
    checkLayout dtype dataLength n dtype.width = .ok (n * dtype.width) := by
  unfold checkLayout byteSizeOf
  rw [if_neg (not_not.mpr rfl), if_neg (Nat.pos_iff_ne_zero.mp h0), if_pos hlt]
  cases dataLength with
  | none => rfl
  | some l => exact if_pos (hd l rfl)

theorem elementSize_of_checkLayout {dataLength : Option Nat} {elementSize m : Nat}
    (h : checkLayout dtype dataLength n elementSize = .ok m) : elementSize = dtype.width := by
  by_contra hne
  rw [checkLayout, if_pos hne] at h
  cases h

/-- The element size of the type leaves the number of elements and the length of the data to check.
-/
theorem checkLayout_of_width (dtype : ElementType) (l m : Nat) :
    checkLayout dtype (some l) m dtype.width =
      if m = 0 then .error .emptyTensor
      else if m * dtype.width < sizeLimit then
        if l = m * dtype.width then .ok (m * dtype.width)
        else .error (.dimensionMismatch (m * dtype.width) l)
      else .error (.sizeOverflow m dtype.width) := by
  unfold checkLayout byteSizeOf
  rw [if_neg (not_not.mpr rfl)]
  by_cases h0 : m = 0
  · rw [if_pos h0, if_pos h0]
  rw [if_neg h0, if_neg h0]
  by_cases hlt : m * dtype.width < sizeLimit
  · rw [if_pos hlt, if_pos hlt]
  · rw [if_neg hlt, if_neg hlt]

/-- So many bytes are some elements of a type, at least one and not too many. -/
def ElementType.Divides (dtype : ElementType) (n : Nat) : Prop :=
  0 < n ∧ dtype.width ∣ n ∧ n < sizeLimit

/-- What is wrong with a number of bytes that are no elements of a type. -/
def ElementType.misfit (dtype : ElementType) (n : Nat) : TensorError :=
  if n < dtype.width then .emptyTensor
  else if sizeLimit ≤ n / dtype.width * dtype.width then
    .sizeOverflow (min (n / dtype.width) (UInt32.size - 1)) dtype.width
  else .dimensionMismatch (n / dtype.width * dtype.width) n

/-- Elements that take up all of the bytes, and that there are some of but not too many, divide
them. -/
theorem ElementType.divides_of_le (hw : dtype.width ≤ n)
    (hlt : n / dtype.width * dtype.width < sizeLimit) (he : n / dtype.width * dtype.width = n) :
    dtype.Divides n :=
  ⟨Nat.lt_of_lt_of_le dtype.width_pos hw, ⟨n / dtype.width, by rw [Nat.mul_comm, he]⟩, he ▸ hlt⟩

namespace TensorPlan

variable {plan : TensorPlan}

/-- The plan is for that many elements, at least one and not too many, and contradicts itself in
nothing. -/
structure Fits (plan : TensorPlan) (n : Nat) : Prop where
  elementSize : ∀ w ∈ plan.elementSize, w = plan.dtype.width
  elements : plan.elements = some n ∨ plan.elements = none ∧ plan.data.isSome = true
  positive : 0 < n
  bounded : n * plan.dtype.width < sizeLimit
  data : ∀ data ∈ plan.data, data.size = n * plan.dtype.width

theorem getD_elementSize (h : ∀ w ∈ plan.elementSize, w = plan.dtype.width) :
    plan.elementSize.getD plan.dtype.width = plan.dtype.width := by
  cases hs : plan.elementSize with
  | none => rfl
  | some w => exact h w hs

theorem elementCount_of_data {data : Block} (hs : ∀ w ∈ plan.elementSize, w = plan.dtype.width)
    (hn : plan.elements = none) (hd : plan.data = some data) :
    plan.elementCount =
      if data.size / plan.dtype.width < UInt32.size then .ok (data.size / plan.dtype.width)
      else .error (.sizeOverflow (UInt32.size - 1) plan.dtype.width) := by
  unfold elementCount
  rw [hn, hd, getD_elementSize hs]
  exact if_pos rfl

theorem layout_of_fits (h : plan.Fits n) : plan.layout = .ok (n, n * plan.dtype.width) := by
  have hw := plan.dtype.width_pos
  have hcount : plan.elementCount = .ok n := by
    rcases h.elements with hn | ⟨hn, hd⟩
    · rw [elementCount, hn]
    obtain ⟨data, hd⟩ := Option.isSome_iff_exists.mp hd
    have hdiv : data.size / plan.dtype.width = n := by
      rw [h.data data hd, Nat.mul_div_cancel _ hw]
    have hlt : n < UInt32.size := Nat.lt_of_le_of_lt (Nat.le_mul_of_pos_right n hw) h.bounded
    rw [elementCount_of_data h.elementSize hn hd, hdiv, if_pos hlt]
  have hlengths : ∀ l ∈ plan.data.map Block.size, l = n * plan.dtype.width := by
    intro l hl
    obtain ⟨data, hd, rfl⟩ := Option.map_eq_some_iff.mp hl
    exact h.data data hd
  unfold layout
  rw [hcount]
  dsimp only
  rw [getD_elementSize h.elementSize, checkLayout_of_fits h.positive h.bounded hlengths]
  rfl

section Data

variable {data : Block} (hs : ∀ w ∈ plan.elementSize, w = plan.dtype.width)
  (hn : plan.elements = none) (hd : plan.data = some data)

include hs hn hd

/-- Data that is given without a number of elements is laid out as those it consists of. -/
theorem layout_of_divides (h : plan.dtype.Divides data.size) :
    plan.layout = .ok (data.size / plan.dtype.width, data.size) ∧
      plan.Fits (data.size / plan.dtype.width) := by
  obtain ⟨h0, hdvd, hlt⟩ := h
  have he := Nat.div_mul_cancel hdvd
  have hfits : plan.Fits (data.size / plan.dtype.width) :=
    { elementSize := hs
      elements := .inr ⟨hn, by rw [hd]; rfl⟩
      positive := Nat.div_pos (Nat.le_of_dvd h0 hdvd) plan.dtype.width_pos
      bounded := he.symm ▸ hlt
      data := fun block hb => by rw [← Option.some.inj (hd.symm.trans hb), he] }
  refine ⟨?_, hfits⟩
  rw [layout_of_fits hfits, he]

/-- Data that does not consist of elements is refused. -/
theorem layout_of_misfit (h : ¬plan.dtype.Divides data.size) :
    plan.layout = .error (plan.dtype.misfit data.size) := by
  have hw := plan.dtype.width_pos
  have hlayout {m : Nat} (hc : plan.elementCount = .ok m) : plan.layout =
      (checkLayout plan.dtype (some data.size) m plan.dtype.width).map fun b => (m, b) := by
    rw [layout, hc, hd, getD_elementSize hs]
    rfl
  have hcount := elementCount_of_data hs hn hd
  unfold ElementType.misfit
  split
  · next hlt =>
    rw [Nat.div_eq_of_lt hlt, if_pos (by decide)] at hcount
    rw [hlayout hcount, checkLayout_of_width, if_pos rfl]
    rfl
  next hle =>
  have hpos : data.size / plan.dtype.width ≠ 0 :=
    Nat.pos_iff_ne_zero.mp (Nat.div_pos (Nat.not_lt.mp hle) hw)
  split
  · next hover =>
    split at hcount
    · next hc =>
      rw [hlayout hcount, checkLayout_of_width, if_neg hpos, if_neg (Nat.not_lt.mpr hover),
        Nat.min_eq_left (by omega)]
      rfl
    · next hc =>
      rw [layout, hcount, Nat.min_eq_right (by omega)]
  · next hbounded =>
    have hc : data.size / plan.dtype.width < UInt32.size :=
      Nat.lt_of_le_of_lt (Nat.le_mul_of_pos_right _ hw) (Nat.not_le.mp hbounded)
    have hne : data.size ≠ data.size / plan.dtype.width * plan.dtype.width := fun he =>
      h (ElementType.divides_of_le (Nat.not_lt.mp hle) (Nat.not_le.mp hbounded) he.symm)
    rw [if_pos hc] at hcount
    rw [hlayout hcount, checkLayout_of_width, if_neg hpos, if_pos (Nat.not_le.mp hbounded),
      if_neg hne]
    rfl

end Data

end TensorPlan
end TensorMemory
