/-!
Numerals in the bases that messages use: decimal, hexadecimal and binary, the last two in lower case
behind their mark, and decimals filled up to a width.
-/

namespace TensorMemory.Text

def decimal (n : Nat) : String := String.ofList (Nat.toDigits 10 n)

/-- Hexadecimal behind `0x`. -/
def hex (n : Nat) : String := "0x" ++ String.ofList (Nat.toDigits 16 n)

/-- Binary behind `0b`. -/
def binary (n : Nat) : String := "0b" ++ String.ofList (Nat.toDigits 2 n)

def padLeft (width : Nat) (digits : List Char) : List Char :=
  List.replicate (width - digits.length) '0' ++ digits

/-- Decimal with zeros in front up to a width. -/
def padded (width n : Nat) : String := String.ofList (padLeft width (Nat.toDigits 10 n))

/-- Hexadecimal without a mark, with zeros in front up to a width. -/
def hexDigits (width n : Nat) : String := String.ofList (padLeft width (Nat.toDigits 16 n))

end TensorMemory.Text
