import Mathlib.Data.Nat.Bitwise
import TensorMemory.Device.Properties

/-!
Which memory type is picked. Of the types that a device has room for, it is the first that the bits
allow and whose flags contain the required ones (`select_eq_some_iff`). A device reports a bit for
each of its types, so that on a device made from a list the choice is a first fit in the list
(`select_ofTypes_eq_some_iff`).
-/

namespace TensorMemory

namespace Mask

theorem contains_iff {m required : Mask} :
    m.contains required = true ↔ m.bits &&& required.bits = required.bits := beq_iff_eq

theorem contains_trans {a b c : Mask} (hab : a.contains b = true) (hbc : b.contains c = true) :
    a.contains c = true := by
  rw [contains_iff] at hab hbc ⊢
  calc a.bits &&& c.bits = a.bits &&& (b.bits &&& c.bits) := by rw [hbc]
    _ = a.bits &&& b.bits &&& c.bits := (UInt32.and_assoc ..).symm
    _ = c.bits := by rw [hab, hbc]

end Mask

/-- The type is the first of a list, among those that a device has room for, that has the required
flags. -/
structure FirstFit (types : List Mask) (required : Mask) (i : Nat) : Prop where
  room : i < maxMemoryTypes
  suits : ∃ flags, types[i]? = some flags ∧ flags.contains required = true
  least : ∀ j < i, ∀ flags, types[j]? = some flags → flags.contains required = false

/-- No type of a list, among those that a device has room for, has the required flags. -/
def NoFit (types : List Mask) (required : Mask) : Prop :=
  ∀ i < maxMemoryTypes, ∀ flags, types[i]? = some flags → flags.contains required = false

namespace MemoryProperties

theorem testBit_typeBits (p : MemoryProperties) (i : Nat) :
    p.typeBits.testBit i = decide (i < min p.count maxMemoryTypes) := by
  have hle : min p.count maxMemoryTypes ≤ 32 := Nat.min_le_right ..
  have hlt : 2 ^ min p.count maxMemoryTypes - 1 < 2 ^ 32 := by
    have := Nat.pow_le_pow_right (show 0 < 2 by decide) hle
    omega
  rw [Mask.testBit, typeBits, Nat.one_shiftLeft, UInt32.toNat_ofNat', Nat.mod_eq_of_lt hlt,
    Nat.testBit_two_pow_sub_one]

theorem select_eq_some_iff {p : MemoryProperties} {bits required : Mask} {i : Nat} :
    p.select bits required = some i ↔ i < min p.count maxMemoryTypes ∧ bits.testBit i = true ∧
      (p.slot i).flags.contains required = true ∧
      ∀ j < i, ¬(bits.testBit j = true ∧ (p.slot j).flags.contains required = true) := by
  rw [select, List.find?_range_eq_some, List.mem_range]
  simp only [Bool.and_eq_true, Bool.not_eq_true', Bool.and_eq_false_iff, not_and_or,
    Bool.not_eq_true]
  tauto

theorem select_eq_none_iff {p : MemoryProperties} {bits required : Mask} :
    p.select bits required = none ↔ ∀ i < min p.count maxMemoryTypes,
      ¬(bits.testBit i = true ∧ (p.slot i).flags.contains required = true) := by
  rw [select, List.find?_range_eq_none]
  simp only [Bool.not_eq_true', Bool.and_eq_false_iff, not_and_or, Bool.not_eq_true]

/-! ## Types from a list -/

variable {types : List Mask} {required flags : Mask} {i : Nat}

theorem slot_ofTypes (hi : i < maxMemoryTypes) (h : types[i]? = some flags) :
    ((ofTypes types).slot i).flags = flags := by
  rw [slot, ofTypes, List.getD_eq_getElem?_getD, List.getElem?_map, List.getElem?_take_of_lt hi, h]
  rfl

theorem lt_count_ofTypes : i < min (ofTypes types).count maxMemoryTypes ↔
    i < maxMemoryTypes ∧ ∃ m, types[i]? = some m := by
  have hcount : min (ofTypes types).count maxMemoryTypes = min types.length maxMemoryTypes :=
    Nat.min_eq_left (Nat.min_le_right ..)
  have hlength : (∃ m, types[i]? = some m) ↔ i < types.length := by
    simp [List.getElem?_eq_some_iff]
  rw [hcount, Nat.lt_min, hlength, and_comm]

theorem select_ofTypes_eq_some_iff :
    (ofTypes types).select (ofTypes types).typeBits required = some i ↔
      FirstFit types required i := by
  rw [select_eq_some_iff, testBit_typeBits, decide_eq_true_eq, lt_count_ofTypes]
  constructor
  · rintro ⟨⟨hi, m, hm⟩, -, hc, hleast⟩
    rw [slot_ofTypes hi hm] at hc
    refine ⟨hi, ⟨m, hm, hc⟩, fun j hj flags hf => ?_⟩
    have hjroom := Nat.lt_trans hj hi
    have hno := hleast j hj
    rw [testBit_typeBits, decide_eq_true_eq, lt_count_ofTypes, slot_ofTypes hjroom hf] at hno
    exact Bool.eq_false_iff.mpr fun h => hno ⟨⟨hjroom, flags, hf⟩, h⟩
  · rintro ⟨hi, ⟨m, hm, hc⟩, hleast⟩
    refine ⟨⟨hi, m, hm⟩, ⟨hi, m, hm⟩, by rw [slot_ofTypes hi hm, hc], ?_⟩
    rintro j hj ⟨hbit, hjc⟩
    rw [testBit_typeBits, decide_eq_true_eq, lt_count_ofTypes] at hbit
    obtain ⟨hjroom, m', hm'⟩ := hbit
    rw [slot_ofTypes hjroom hm', hleast j hj m' hm'] at hjc
    cases hjc

theorem select_ofTypes_eq_none_iff :
    (ofTypes types).select (ofTypes types).typeBits required = none ↔ NoFit types required := by
  rw [select_eq_none_iff]
  constructor
  · intro h i hi flags hf
    have hno := h i (lt_count_ofTypes.mpr ⟨hi, flags, hf⟩)
    rw [testBit_typeBits, decide_eq_true_eq, lt_count_ofTypes, slot_ofTypes hi hf] at hno
    exact Bool.eq_false_iff.mpr fun hc => hno ⟨⟨hi, flags, hf⟩, hc⟩
  · rintro h i hi ⟨-, hc⟩
    obtain ⟨hroom, m, hm⟩ := lt_count_ofTypes.mp hi
    rw [slot_ofTypes hroom hm, h i hroom m hm] at hc
    cases hc

end MemoryProperties

theorem FirstFit.not_noFit {types : List Mask} {required : Mask} {i : Nat}
    (h : FirstFit types required i) : ¬NoFit types required := by
  intro hno
  obtain ⟨flags, hf, hc⟩ := h.suits
  rw [hno i h.room flags hf] at hc
  cases hc

end TensorMemory
