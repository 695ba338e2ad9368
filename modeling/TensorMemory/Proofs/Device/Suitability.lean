import Mathlib.Order.Bounds.Defs
import TensorMemory.Proofs.Device.Selection

/-!
The least suitable memory type. A type suits a request if the device announces it and has a slot for
it, its bit is allowed, and it has every flag that is required. The choice is the least type that
suits (`select_eq_some_iff_isLeast`), and a search that works on words and tables finds it without
ever shifting a word too far or asking for more slots than there are (`search_eq_ok`). To ask for
less, or to have more types behind the others, leaves every suitable type suitable, so that the
choice can only move forward (`select_weaken`).
-/

namespace TensorMemory

namespace Mask

/-- Every bit of the one is set in the other. -/
def Within (a b : Mask) : Prop := ∀ k, a.testBit k = true → b.testBit k = true

theorem contains_iff_within {m required : Mask} :
    m.contains required = true ↔ required.Within m := by
  have hbits : m.bits &&& required.bits = required.bits ↔
      ∀ k, (m.testBit k && required.testBit k) = required.testBit k := by
    rw [← UInt32.toNat_inj, UInt32.toNat_and]
    constructor
    · intro h k
      rw [testBit, testBit, ← Nat.testBit_and, h]
    · intro h
      exact Nat.eq_of_testBit_eq fun k => (Nat.testBit_and ..).trans (h k)
  rw [contains_iff, hbits]
  simp only [Within, Bool.and_eq_right_iff_imp]

/-- A bit is set if the word and a one that is shifted to its place have a bit in common. -/
theorem and_shiftLeft_ne_zero {m : Mask} {i : Nat} (hi : i < 32) :
    (m.bits &&& 1 <<< UInt32.ofNat i != 0) = m.testBit i := by
  have hplace : (UInt32.ofNat i).toNat % 32 = i := by
    rw [UInt32.toNat_ofNat']
    omega
  have hone : (1 <<< UInt32.ofNat i : UInt32).toNat = 2 ^ i := by
    rw [UInt32.toNat_shiftLeft, hplace, UInt32.toNat_one, Nat.one_shiftLeft,
      Nat.mod_eq_of_lt (Nat.pow_lt_pow_right (by decide) hi)]
  have hand : (m.bits &&& 1 <<< UInt32.ofNat i).toNat = (m.testBit i).toNat * 2 ^ i := by
    rw [UInt32.toNat_and, hone, Nat.and_two_pow, testBit]
  rw [Bool.eq_iff_iff, bne_iff_ne, ne_eq, ← UInt32.toNat_inj, hand, UInt32.toNat_zero]
  cases m.testBit i <;> simp

end Mask

namespace MemoryProperties

variable {p p' : MemoryProperties} {bits bits' required required' : Mask} {i : Nat}

/-- The type is announced and has a slot, its bit is allowed, and it has the required flags. -/
structure Suits (p : MemoryProperties) (bits required : Mask) (i : Nat) : Prop where
  counted : i < p.count
  room : i < maxMemoryTypes
  allowed : bits.testBit i = true
  offers : required.Within (p.slot i).flags

theorem suits_iff : p.Suits bits required i ↔ i < min p.count maxMemoryTypes ∧
    bits.testBit i = true ∧ (p.slot i).flags.contains required = true := by
  rw [Nat.lt_min, Mask.contains_iff_within]
  exact ⟨fun ⟨hc, hr, ha, ho⟩ => ⟨⟨hc, hr⟩, ha, ho⟩, fun ⟨⟨hc, hr⟩, ha, ho⟩ => ⟨hc, hr, ha, ho⟩⟩

theorem select_eq_some_iff_isLeast :
    p.select bits required = some i ↔ IsLeast {i | p.Suits bits required i} i := by
  rw [select_eq_some_iff]
  constructor
  · rintro ⟨hi, hbit, hflags, hleast⟩
    refine ⟨suits_iff.2 ⟨hi, hbit, hflags⟩, fun j hj => Nat.le_of_not_lt fun hlt => ?_⟩
    exact hleast j hlt (suits_iff.1 hj).2
  · rintro ⟨hsuits, hlower⟩
    obtain ⟨hi, hbit, hflags⟩ := suits_iff.1 hsuits
    refine ⟨hi, hbit, hflags, fun j hj hsuit => Nat.not_le_of_lt hj (hlower ?_)⟩
    exact suits_iff.2 ⟨Nat.lt_trans hj hi, hsuit⟩

theorem select_eq_none_iff_forall :
    p.select bits required = none ↔ ∀ i, ¬p.Suits bits required i := by
  rw [select_eq_none_iff]
  exact ⟨fun h i hsuits => h i (suits_iff.1 hsuits).1 (suits_iff.1 hsuits).2,
    fun h i hi hsuit => h i (suits_iff.2 ⟨hi, hsuit⟩)⟩

/-! ## Searching words and tables -/

/-- What stops a search. -/
inductive SearchFault where
  /-- A word is shifted by as many places as it has, or more. -/
  | shift (places : Nat)
  /-- More entries of a table are asked for than it has. -/
  | slice (length : Nat)
  deriving DecidableEq, Repr

/-- The slots of a device. -/
def table (p : MemoryProperties) : List MemoryType := (List.range maxMemoryTypes).map p.slot

/-- The first entries of a table. -/
def sliceTo (types : List MemoryType) (length : Nat) : Except SearchFault (List MemoryType) :=
  if length ≤ types.length then .ok (types.take length) else .error (.slice length)

/-- Whether a word has a bit in common with a one that is shifted by some places. -/
def probe (bits : Mask) (places : Nat) : Except SearchFault Bool :=
  if places < 32 then .ok (bits.bits &&& 1 <<< UInt32.ofNat places != 0)
  else .error (.shift places)

/-- Looks at one entry after another, the first of which has the given number. -/
def searchFrom (bits required : Mask) :
    Nat → List MemoryType → Except SearchFault (Option Nat)
  | _, [] => .ok none
  | i, type :: types => do
    if (← probe bits i) && type.flags.contains required then return some i
    searchFrom bits required (i + 1) types

/-- Looks at the slots of the types that the device announces. -/
def search (p : MemoryProperties) (bits required : Mask) : Except SearchFault (Option Nat) := do
  searchFrom bits required 0 (← sliceTo p.table (min p.count maxMemoryTypes))

theorem probe_eq_ok (hi : i < 32) : probe bits i = .ok (bits.testBit i) := by
  rw [probe, if_pos hi, Mask.and_shiftLeft_ne_zero hi]

/-- No place of a slot is too far to shift to. -/
theorem searchFrom_eq_ok (p : MemoryProperties) (bits required : Mask) (n i : Nat)
    (h : i + n ≤ 32) :
    searchFrom bits required i ((List.range' i n).map p.slot) =
      .ok ((List.range' i n).find? fun j =>
        bits.testBit j && (p.slot j).flags.contains required) := by
  induction n generalizing i with
  | zero => rfl
  | succ n ih =>
    have hrest := ih (i + 1) (by omega)
    rw [List.range'_succ, List.map_cons, searchFrom, probe_eq_ok (by omega), List.find?_cons]
    cases hfits : bits.testBit i && (p.slot i).flags.contains required with
    | true => simp [bind, Except.bind, hfits, pure, Except.pure]
    | false => simpa [bind, Except.bind, hfits] using hrest

theorem search_eq_ok (p : MemoryProperties) (bits required : Mask) :
    p.search bits required = .ok (p.select bits required) := by
  have hslice : sliceTo p.table (min p.count maxMemoryTypes) =
      .ok ((List.range' 0 (min p.count maxMemoryTypes)).map p.slot) := by
    have hle : min p.count maxMemoryTypes ≤ p.table.length := by
      rw [table, List.length_map, List.length_range]
      exact Nat.min_le_right ..
    rw [sliceTo, if_pos hle, table, ← List.map_take, List.take_range, ← List.range_eq_range']
    simp
  have hroom : 0 + min p.count maxMemoryTypes ≤ 32 := by
    rw [Nat.zero_add]
    exact Nat.min_le_right ..
  rw [search, hslice, select, List.range_eq_range']
  exact searchFrom_eq_ok p bits required _ 0 hroom

/-! ## Weaker requests -/

/-- The other properties have the announced types too, and maybe more behind them. -/
structure Extends (p p' : MemoryProperties) : Prop where
  count : p.count ≤ p'.count
  flags : ∀ i < min p.count maxMemoryTypes, (p'.slot i).flags = (p.slot i).flags

/-- More types, behind those that the device announces. -/
def append (p : MemoryProperties) (more : List MemoryType) : MemoryProperties :=
  { p with
    count := p.count + more.length
    types := (List.range p.count).map p.slot ++ more }

theorem extends_append (p : MemoryProperties) (more : List MemoryType) :
    p.Extends (p.append more) where
  count := Nat.le_add_right ..
  flags i hi := by
    have hcount : i < p.count := (Nat.lt_min.1 hi).1
    have hold : (p.append more).types[i]? = some (p.slot i) := by
      rw [append, List.getElem?_append_left (by simpa using hcount), List.getElem?_map,
        List.getElem?_range hcount, Option.map_some]
    rw [slot, List.getD_eq_getElem?_getD, hold, Option.getD_some]

theorem Suits.weaken (h : p.Suits bits required i) (hp : p.Extends p') (hbits : bits.Within bits')
    (hrequired : required'.Within required) : p'.Suits bits' required' i where
  counted := Nat.lt_of_lt_of_le h.counted hp.count
  room := h.room
  allowed := hbits i h.allowed
  offers k hk := by
    rw [hp.flags i (Nat.lt_min.2 ⟨h.counted, h.room⟩)]
    exact h.offers k (hrequired k hk)

theorem select_weaken (h : p.select bits required = some i) (hp : p.Extends p')
    (hbits : bits.Within bits') (hrequired : required'.Within required) :
    ∃ j ≤ i, p'.select bits' required' = some j := by
  have hsuits := (select_eq_some_iff_isLeast.1 h).1.weaken hp hbits hrequired
  cases hchoice : p'.select bits' required' with
  | none => exact absurd hsuits (select_eq_none_iff_forall.1 hchoice i)
  | some j => exact ⟨j, (select_eq_some_iff_isLeast.1 hchoice).2 hsuits, rfl⟩

/-- The type that is chosen is the least that suits the request, and none is if none suits it. On
words and tables the search for it goes through. A request for fewer flags, of more types, on a
device with more types behind the others is granted too if this one is, and by no later type. -/
theorem choice (p : MemoryProperties) (bits required : Mask) :
    (∀ i, p.select bits required = some i ↔ IsLeast {i | p.Suits bits required i} i) ∧
    (p.select bits required = none ↔ ∀ i, ¬p.Suits bits required i) ∧
    p.search bits required = .ok (p.select bits required) ∧
    ∀ (p' : MemoryProperties) (bits' required' : Mask), p.Extends p' → bits.Within bits' →
      required'.Within required → ∀ i, p.select bits required = some i →
      ∃ j ≤ i, p'.select bits' required' = some j :=
  ⟨fun _ => select_eq_some_iff_isLeast, select_eq_none_iff_forall, search_eq_ok p bits required,
    fun _ _ _ hp hbits hrequired _ h => select_weaken h hp hbits hrequired⟩

/-- Only the last slot has the flag, and only its bit is allowed. The weaker request comes to a
device that announces more types than it has slots for. -/
theorem choice_lastSlot :
    let p := ofTypes (List.replicate 31 .empty ++ [MemoryFlags.deviceLocal])
    let p' := p.append (List.replicate 8 ⟨MemoryFlags.hostVisible, 1⟩)
    maxMemoryTypes < p'.count ∧ p.Extends p' ∧ Mask.Within ⟨0x80000000⟩ ⟨0xffffffff⟩ ∧
    Mask.Within .empty MemoryFlags.deviceLocal ∧
    p.select ⟨0x80000000⟩ MemoryFlags.deviceLocal = some 31 ∧
    ∃ j ≤ 31, p'.select ⟨0xffffffff⟩ .empty = some j := by
  intro p p'
  have hp : p.Extends p' := extends_append p _
  have hbits : Mask.Within ⟨0x80000000⟩ ⟨0xffffffff⟩ := Mask.contains_iff_within.1 (by decide)
  have hrequired : Mask.Within .empty MemoryFlags.deviceLocal :=
    Mask.contains_iff_within.1 (Mask.contains_empty _)
  have hlast : p.select ⟨0x80000000⟩ MemoryFlags.deviceLocal = some 31 := by decide +kernel
  exact ⟨by decide, hp, hbits, hrequired, hlast,
    (choice p _ _).2.2.2 p' _ _ hp hbits hrequired 31 hlast⟩

end MemoryProperties
end TensorMemory
