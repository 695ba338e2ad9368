import TensorMemory.Text.Quoted

/-!
Texts on a terminal. A message must not steer the terminal, so that characters which could are shown
as their codes. The colours of a text are no part of what it says and can be taken out of it.
-/

namespace TensorMemory.Text

/-- A character that could steer a terminal is shown as its code. -/
def harmlessChar (c : Char) : String :=
  match c with
  | '\x07' => "\\x07"
  | '\x08' => "\\x08"
  | '\x0c' => "\\x0c"
  | '\x1b' => "\\x1b"
  | '\x7f' => "\\x7f"
  | c => if 0x80 ≤ c.toNat ∧ c.toNat ≤ 0x9f then codePoint c else c.toString

def harmless (s : String) : String := String.join (s.toList.map harmlessChar)

/-- The length of the colour sequence that a text begins with; zero if it begins with none. -/
def colourLength : List Char → Nat
  | '\x1b' :: '[' :: rest =>
    let codes := rest.takeWhile fun c => c.isDigit || c = ';'
    if rest[codes.length]? = some 'm' then codes.length + 3 else 0
  | _ => 0

/-- The characters outside of colour sequences. The first argument counts those that a sequence
still covers. -/
def uncolouredChars : Nat → List Char → List Char
  | _, [] => []
  | covered + 1, _ :: rest => uncolouredChars covered rest
  | 0, c :: rest =>
    match colourLength (c :: rest) with
    | 0 => c :: uncolouredChars 0 rest
    | length + 1 => uncolouredChars length rest

def uncoloured (s : String) : String := String.ofList (uncolouredChars 0 s.toList)

end TensorMemory.Text
