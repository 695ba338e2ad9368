/-!
Blank space: the characters with the Unicode property White_Space. Texts are trimmed of all of them,
not only of the ASCII ones.
-/

namespace TensorMemory.Text

def isBlank (c : Char) : Bool :=
  let n := c.toNat
  (0x09 ≤ n && n ≤ 0x0D) || n == 0x20 || n == 0x85 || n == 0xA0 || n == 0x1680 ||
    (0x2000 ≤ n && n ≤ 0x200A) || n == 0x2028 || n == 0x2029 || n == 0x202F || n == 0x205F ||
    n == 0x3000

def trimChars (cs : List Char) : List Char :=
  ((cs.dropWhile isBlank).reverse.dropWhile isBlank).reverse

/-- The text without the blank space at its ends. -/
def trim (s : String) : String := String.ofList (trimChars s.toList)

end TensorMemory.Text
