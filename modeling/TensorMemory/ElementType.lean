import TensorMemory.Block
import TensorMemory.Text.Case

/-!
Element types and their layout. An element is the bit pattern of its type's width, so a not-a-number
payload or a negative zero passes through memory unchanged; `decode_encode` and `encode_decode` are
the round trips.
-/

namespace TensorMemory

inductive ElementType where
  | bool
  | int
  | unsignedInt
  | float
  | double
  deriving DecidableEq, Repr, Inhabited

namespace ElementType

def all : List ElementType := [bool, int, unsignedInt, float, double]

/-- Bytes of one element. -/
def width : ElementType → Nat
  | bool => 1
  | int | unsignedInt | float => 4
  | double => 8

def name : ElementType → String
  | bool => "Bool"
  | int => "Int"
  | unsignedInt => "UnsignedInt"
  | float => "Float"
  | double => "Double"

/-- Reads a name, exactly as `name` writes it. -/
def ofName? (s : String) : Option ElementType := all.find? (·.name = s)

/-- Reads a name or a short name, in any letter case. -/
def parse (s : String) : Except String ElementType :=
  match Text.upper s with
  | "BOOL" => .ok bool
  | "INT" | "I32" => .ok int
  | "UNSIGNEDINT" | "U32" => .ok unsignedInt
  | "FLOAT" | "F32" => .ok float
  | "DOUBLE" | "F64" => .ok double
  | _ => .error ("Unknown Dtype: " ++ s)

theorem width_pos (t : ElementType) : 0 < t.width := by cases t <;> decide

end ElementType

/-- An element: a bit pattern as wide as its type. -/
abbrev Element (t : ElementType) := BitVec (8 * t.width)

namespace Element

def bytes {t : ElementType} (x : Element t) : Bytes := Bytes.ofNat t.width x.toNat

def ofBytes (t : ElementType) (bytes : Bytes) : Element t := BitVec.ofNat _ (Bytes.toNat bytes)

/-- The elements one after another. -/
def encode {t : ElementType} (xs : List (Element t)) : Bytes := xs.flatMap bytes

/-- The element that a block holds after `i` others. -/
def nth (t : ElementType) (b : Block) (i : Nat) : Element t :=
  ofBytes t (b.slice (i * t.width) t.width).toBytes

/-- The first `count` elements that a block holds. -/
def decode (t : ElementType) (count : Nat) (b : Block) : List (Element t) :=
  (List.range count).map (nth t b)

@[simp] theorem length_bytes {t : ElementType} (x : Element t) : x.bytes.length = t.width := by
  simp [bytes]

theorem ofBytes_bytes {t : ElementType} (x : Element t) : ofBytes t x.bytes = x := by
  apply BitVec.eq_of_toNat_eq
  have h : x.toNat < 2 ^ (8 * t.width) := x.isLt
  simp [ofBytes, bytes, Bytes.toNat_ofNat, Nat.one_shiftLeft, Nat.mod_eq_of_lt h]

@[simp] theorem length_encode {t : ElementType} (xs : List (Element t)) :
    (encode xs).length = xs.length * t.width := by
  induction xs with
  | nil => simp [encode]
  | cons x xs ih =>
    simp only [encode, List.flatMap_cons, List.length_append, length_bytes] at ih ⊢
    rw [ih, List.length_cons, Nat.succ_mul, Nat.add_comm]

/-- Each element lies where its index says. -/
theorem slice_encode {t : ElementType} (xs : List (Element t)) (i : Nat) (h : i < xs.length) :
    ((encode xs).drop (i * t.width)).take t.width = xs[i].bytes := by
  induction xs generalizing i with
  | nil => simp at h
  | cons x xs ih =>
    have e : encode (x :: xs) = x.bytes ++ encode xs := rfl
    have hw : x.bytes.length = t.width := length_bytes x
    cases i with
    | zero =>
      rw [e, Nat.zero_mul, List.drop_zero, ← hw, List.take_left]
      rfl
    | succ i =>
      rw [e, Nat.succ_mul, Nat.add_comm, ← List.drop_drop]
      conv => enter [1, 2, 2, 1]; rw [← hw]
      rw [List.drop_left]
      exact ih i (by simpa using h)

theorem decode_encode {t : ElementType} (xs : List (Element t)) :
    decode t xs.length (.ofBytes (encode xs)) = xs := by
  apply List.ext_getElem
  · simp [decode]
  · intro i hi hx
    simp only [decode, List.getElem_map, List.getElem_range, nth, Block.toBytes_slice,
      Block.toBytes_ofBytes, slice_encode xs i hx, ofBytes_bytes]

@[simp] theorem length_decode (t : ElementType) (count : Nat) (b : Block) :
    (decode t count b).length = count := by
  simp [decode]

theorem bytes_ofBytes {t : ElementType} {bytes : Bytes} (h : bytes.length = t.width) :
    (ofBytes t bytes).bytes = bytes := by
  have hlt : Bytes.toNat bytes < 2 ^ (8 * t.width) := by
    rw [← h, ← Nat.one_shiftLeft]
    exact Bytes.toNat_lt bytes
  rw [Element.bytes, ofBytes, BitVec.toNat_ofNat, Nat.mod_eq_of_lt hlt, ← h]
  exact Bytes.ofNat_toNat bytes

theorem encode_append {t : ElementType} (xs ys : List (Element t)) :
    encode (xs ++ ys) = encode xs ++ encode ys := List.flatMap_append

/-- The elements at the start of a block are laid out as the block is. -/
theorem encode_decode {t : ElementType} {b : Block} {count : Nat} (h : count * t.width ≤ b.size) :
    encode (decode t count b) = b.toBytes.take (count * t.width) := by
  induction count with
  | zero => simp [decode, encode]
  | succ count ih =>
    rw [Nat.succ_mul] at h ⊢
    have hslice : (b.slice (count * t.width) t.width).toBytes.length = t.width := by
      rw [Block.length_toBytes, Block.size_slice]
      omega
    have hlast : encode [nth t b count] = (b.toBytes.drop (count * t.width)).take t.width := by
      rw [encode, List.flatMap_singleton, nth, bytes_ofBytes hslice, Block.toBytes_slice]
    rw [decode, List.range_succ, List.map_append, encode_append, List.map_singleton, hlast,
      List.take_add]
    exact congrArg (· ++ _) (ih (by omega))

end Element

/-! One-byte truth values. Any byte is one: all but zero count as true. -/

namespace Truth

def ofBool (b : Bool) : UInt8 := if b then 1 else 0

def toBool (byte : UInt8) : Bool := byte ≠ 0

theorem toBool_ofBool (b : Bool) : toBool (ofBool b) = b := by cases b <;> rfl

end Truth
end TensorMemory
