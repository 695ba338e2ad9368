/-!
Byte strings. Numbers are laid out with their least significant byte first, and `ofNat_toNat` says
that every byte string is the layout of a number.
-/

namespace TensorMemory

abbrev Bytes := List UInt8

namespace Bytes

/-- The lowest `width` bytes of a number. -/
def ofNat : (width : Nat) → Nat → Bytes
  | 0, _ => []
  | width + 1, n => UInt8.ofNat n :: ofNat width (n / 256)

def toNat : Bytes → Nat
  | [] => 0
  | b :: rest => b.toNat + 256 * toNat rest

@[simp] theorem length_ofNat (width n : Nat) : (ofNat width n).length = width := by
  induction width generalizing n with
  | zero => rfl
  | succ width ih => simp [ofNat, ih]

/-- One more byte holds 256 times as many numbers. -/
theorem shiftLeft_width_succ (width : Nat) : 1 <<< (8 * (width + 1)) = 256 * 1 <<< (8 * width) := by
  rw [Nat.one_shiftLeft, Nat.one_shiftLeft, Nat.mul_succ, Nat.pow_add, Nat.mul_comm]

theorem toNat_ofNat (width n : Nat) : toNat (ofNat width n) = n % 1 <<< (8 * width) := by
  induction width generalizing n with
  | zero => simp [ofNat, toNat, Nat.mod_one]
  | succ width ih =>
    have hb : (UInt8.ofNat n).toNat = n % 256 := by simp
    rw [ofNat, toNat, ih, hb, shiftLeft_width_succ, Nat.mod_mul]

theorem toNat_lt (bytes : Bytes) : toNat bytes < 1 <<< (8 * bytes.length) := by
  induction bytes with
  | nil => simp [toNat]
  | cons b rest ih =>
    have := b.toNat_lt
    simp only [toNat, List.length_cons, shiftLeft_width_succ]
    omega

theorem ofNat_toNat (bytes : Bytes) : ofNat bytes.length (toNat bytes) = bytes := by
  induction bytes with
  | nil => rfl
  | cons b rest ih =>
    have h := b.toNat_lt
    have hd : (b.toNat + 256 * toNat rest) / 256 = toNat rest := by omega
    have hb : UInt8.ofNat (b.toNat + 256 * toNat rest) = b := by
      apply UInt8.toNat_inj.mp
      rw [UInt8.toNat_ofNat']
      omega
    simp [toNat, ofNat, hd, hb, ih]

end Bytes
end TensorMemory
