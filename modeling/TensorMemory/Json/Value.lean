import TensorMemory.Json.Number
import TensorMemory.Json.Quoted

/-!
Document values. A string is kept also when its escapes write no text, because a value that is
skipped has to follow the grammar only, while one that is read has to be `sound`. `print` writes a
value without any blank space.
-/

namespace TensorMemory.Json

inductive Value where
  | null
  | bool (b : Bool)
  | number (n : Number)
  | string (text : Option String)
  | array (items : List Value)
  | object (members : List (Option String × Value))

namespace Value

def text (s : String) : Value := .string (some s)

def nat (n : Nat) : Value := .number (.ofNat n)

def option {α : Type} (f : α → Value) : Option α → Value
  | none => .null
  | some a => f a

mutual

/-- How many arrays and objects are open at the deepest place. -/
def depth : Value → Nat
  | .array items => depthItems items + 1
  | .object members => depthMembers members + 1
  | _ => 0

def depthItems : List Value → Nat
  | [] => 0
  | v :: vs => max (depth v) (depthItems vs)

def depthMembers : List (Option String × Value) → Nat
  | [] => 0
  | (_, v) :: ms => max (depth v) (depthMembers ms)

end

mutual

/-- Every string writes a text and every number is finite. -/
def sound : Value → Bool
  | .null | .bool _ => true
  | .number n => n.isFinite
  | .string text => text.isSome
  | .array items => soundItems items
  | .object members => soundMembers members

def soundItems : List Value → Bool
  | [] => true
  | v :: vs => sound v && soundItems vs

def soundMembers : List (Option String × Value) → Bool
  | [] => true
  | (k, v) :: ms => k.isSome && sound v && soundMembers ms

end

mutual

/-- The value without blank space. A string that writes no text has no written form and is left
empty, and of numbers only those that `Number.ofNat` makes are printed in full. -/
def print : Value → List Char
  | .null => "null".toList
  | .bool true => "true".toList
  | .bool false => "false".toList
  | .number n => Nat.toDigits 10 n.digits
  | .string s => quote (s.getD "")
  | .array items => '[' :: (printItems items ++ [']'])
  | .object members => '\x7b' :: (printMembers members ++ ['\x7d'])

def printItems : List Value → List Char
  | [] => []
  | [v] => print v
  | v :: vs => print v ++ ',' :: printItems vs

def printMembers : List (Option String × Value) → List Char
  | [] => []
  | [(k, v)] => quote (k.getD "") ++ ':' :: print v
  | (k, v) :: ms => quote (k.getD "") ++ ':' :: (print v ++ ',' :: printMembers ms)

end

def render (v : Value) : String := String.ofList v.print

/-- An object from names and values. -/
def record (members : List (String × Value)) : Value :=
  .object (members.map fun m => (some m.1, m.2))

/-- The value of the only member of a name. -/
def unique? (members : List (Option String × Value)) (name : String) : Option Value :=
  match members.filter (·.1 = some name) with
  | [m] => some m.2
  | _ => none

def string? : Value → Option String
  | .string s => s
  | _ => none

/-- A natural number below a limit. -/
def natBelow? (limit : Nat) : Value → Option Nat
  | .number n => n.natural?.filter (· < limit)
  | _ => none

end Value
end TensorMemory.Json
