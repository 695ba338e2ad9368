/-!
Letter case over ASCII: only the letters A to Z have two forms, and any other character is left as
it is.
-/

namespace TensorMemory.Text

def lower (s : String) : String := String.ofList (s.toList.map Char.toLower)

def upper (s : String) : String := String.ofList (s.toList.map Char.toUpper)

/-- The texts differ at most in the case of ASCII letters. -/
def sameLetters (a b : String) : Bool := lower a == lower b

end TensorMemory.Text
