/-!
Numbers of a document. A number keeps its digits and its scale, because a value that is skipped has
to follow the grammar only, while one that is read has to be finite in double precision. How a
double is read is part of that rule: the digits that fit a word and the power of ten are rounded
first, and their product afterwards.
-/

namespace TensorMemory.Json

structure Number where
  negative : Bool
  /-- All digits as one number, those of the fraction included. -/
  digits : Nat
  /-- The power of ten that the digits are multiplied with. -/
  scale : Int
  /-- Written without fraction and exponent. -/
  integral : Bool
  deriving DecidableEq, Repr

namespace Number

def ofNat (n : Nat) : Number := ⟨false, n, 0, true⟩

/-- A natural number: no sign, no fraction, no exponent. -/
def natural? (n : Number) : Option Nat :=
  if n.integral ∧ ¬ n.negative then some n.digits else none

/-- As many leading digits as fit a word of 64 bits, and the number of digits after them. -/
def leading (n : Nat) : Nat × Nat :=
  if n < UInt64.size then (n, 0)
  else
    let (word, dropped) := leading (n / 10)
    (word, dropped + 1)
termination_by n
decreasing_by simp only [UInt64.size] at *; omega

/-- The unit of the last of 53 binary digits. -/
def lastPlace (n : Nat) : Nat := 1 <<< (n.log2 + 1 - 53)

/-- A natural number to 53 binary digits. A half goes to the even neighbour. -/
def roundToDouble (n : Nat) : Nat :=
  let unit := lastPlace n
  let half := 2 * (n % unit)
  let quotient := n / unit
  (if unit < half ∨ unit = half ∧ quotient % 2 = 1 then quotient + 1 else quotient) * unit

/-- The least value that rounds to infinity in double precision. -/
def overflow : Nat := 1 <<< 1024 - 1 <<< 970

/-- The greatest power of ten below infinity. -/
def highestPower : Nat := 308

/-- The number reads as a finite double. A negative power divides, which cannot lead to infinity. -/
def isFinite (n : Number) : Bool :=
  let (word, dropped) := leading n.digits
  let exponent := n.scale + dropped
  if word = 0 ∨ exponent < 0 then true
  else if highestPower < exponent then false
  else roundToDouble word * roundToDouble (Nat.pow 10 exponent.toNat) < overflow

end Number
end TensorMemory.Json
