import TensorMemory.Json.Value

/-!
Reading a document: the whole text has to be one value, with blank space around its tokens. Each
call of the reader takes one unit of fuel and every second call at least one character, so twice the
length of the text is enough.
-/

namespace TensorMemory.Json

def isBlank (c : Char) : Bool := c = ' ' || c = '\n' || c = '\t' || c = '\r'

def skipBlank (cs : List Char) : List Char := cs.dropWhile isBlank

def isDigit (c : Char) : Bool := '0' ≤ c && c ≤ '9'

def digitsToNat (cs : List Char) : Nat := cs.foldl (fun n c => n * 10 + (c.toNat - 48)) 0

/-- The digits at the front, of which there has to be one. -/
def digits? (cs : List Char) : Option (List Char × List Char) :=
  match cs.takeWhile isDigit with
  | [] => none
  | ds => some (ds, cs.dropWhile isDigit)

/-- The integer part: zero alone, or digits that do not start with zero. -/
def integerPart? : List Char → Option (List Char × List Char)
  | '0' :: rest => some (['0'], rest)
  | cs => digits? cs

/-- The exponent after its mark. -/
def exponent? : List Char → Option (Int × List Char)
  | '+' :: rest => (digits? rest).map fun (ds, rest) => ((digitsToNat ds : Int), rest)
  | '-' :: rest => (digits? rest).map fun (ds, rest) => (-(digitsToNat ds : Int), rest)
  | cs => (digits? cs).map fun (ds, rest) => ((digitsToNat ds : Int), rest)

def number? (cs : List Char) : Option (Number × List Char) := do
  let (negative, cs) := match cs with
    | '-' :: rest => (true, rest)
    | _ => (false, cs)
  let (whole, cs) ← integerPart? cs
  let (fraction, cs) ← match cs with
    | '.' :: rest => digits? rest
    | _ => some ([], cs)
  let (exponent, cs) ← match cs with
    | 'e' :: rest | 'E' :: rest => (exponent? rest).map fun (e, rest) => (some e, rest)
    | _ => some (none, cs)
  let number : Number :=
    { negative, digits := digitsToNat (whole ++ fraction)
      scale := exponent.getD 0 - fraction.length
      integral := fraction.isEmpty && exponent.isNone }
  return (number, cs)

/-- A string behind its opening quote. -/
def string? (cs : List Char) : Option (Option String × List Char) := do
  let (ps, rest) ← pieces cs
  return ((assemble ps).map String.ofList, rest)

mutual

def value? : (fuel : Nat) → List Char → Option (Value × List Char)
  | 0, _ => none
  | fuel + 1, cs =>
    match skipBlank cs with
    | 'n' :: 'u' :: 'l' :: 'l' :: rest => some (.null, rest)
    | 't' :: 'r' :: 'u' :: 'e' :: rest => some (.bool true, rest)
    | 'f' :: 'a' :: 'l' :: 's' :: 'e' :: rest => some (.bool false, rest)
    | '"' :: rest => (string? rest).map fun (s, rest) => (.string s, rest)
    | '[' :: rest =>
      match skipBlank rest with
      | ']' :: rest => some (.array [], rest)
      | rest => (items? fuel rest).map fun (vs, rest) => (.array vs, rest)
    | '\x7b' :: rest =>
      match skipBlank rest with
      | '\x7d' :: rest => some (.object [], rest)
      | rest => (members? fuel rest).map fun (ms, rest) => (.object ms, rest)
    | cs => (number? cs).map fun (n, rest) => (.number n, rest)

/-- The items of an array up to its closing bracket. -/
def items? : (fuel : Nat) → List Char → Option (List Value × List Char)
  | 0, _ => none
  | fuel + 1, cs => do
    let (v, rest) ← value? fuel cs
    match skipBlank rest with
    | ',' :: rest =>
      let (vs, rest) ← items? fuel rest
      return (v :: vs, rest)
    | ']' :: rest => return ([v], rest)
    | _ => none

/-- The members of an object up to its closing brace. -/
def members? : (fuel : Nat) → List Char → Option (List (Option String × Value) × List Char)
  | 0, _ => none
  | fuel + 1, cs =>
    match skipBlank cs with
    | '"' :: rest => do
      let (k, rest) ← string? rest
      match skipBlank rest with
      | ':' :: rest =>
        let (v, rest) ← value? fuel rest
        match skipBlank rest with
        | ',' :: rest =>
          let (ms, rest) ← members? fuel rest
          return ((k, v) :: ms, rest)
        | '\x7d' :: rest => return ([(k, v)], rest)
        | _ => none
      | _ => none
    | _ => none

end

def Value.ofChars? (cs : List Char) : Option Value := do
  let (v, rest) ← value? (2 * cs.length + 2) cs
  if (skipBlank rest).isEmpty then some v else none

def Value.parse? (s : String) : Option Value := Value.ofChars? s.toList

/-- A choice among names without data: the name itself, or an object that gives it null. -/
def Value.choice? : Value → Option String
  | .string s => s
  | .object [(some s, .null)] => some s
  | _ => none

end TensorMemory.Json
