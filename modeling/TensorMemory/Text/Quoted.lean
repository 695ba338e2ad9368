import TensorMemory.Text.Numeral
import TensorMemory.Text.Printable

/-!
Texts in quotes, as logs and messages show them: quotes, backslashes and a few controls behind a
backslash, and every other character that does not show by itself as its code point in braces.
-/

namespace TensorMemory.Text

def codePoint (c : Char) : String :=
  "\\u\x7b" ++ String.ofList (Nat.toDigits 16 c.toNat) ++ "\x7d"

def escapeChar (c : Char) : String :=
  match c with
  | '\x00' => "\\0"
  | '\t' => "\\t"
  | '\r' => "\\r"
  | '\n' => "\\n"
  | '\\' => "\\\\"
  | '"' => "\\\""
  | c => if isPrintable c then c.toString else codePoint c

def quoted (s : String) : String := "\"" ++ String.join (s.toList.map escapeChar) ++ "\""

end TensorMemory.Text
