import TensorMemory.Text.Blank
import TensorMemory.Text.Case

/-!
Levels of log events, from errors to traces. A level reads from its name in any letter case or from
its number, and passes a filter when it is no more verbose than the filter's level.
-/

namespace TensorMemory

inductive Level where
  | error
  | warn
  | info
  | debug
  | trace
  deriving DecidableEq, Repr, Inhabited

namespace Level

def all : List Level := [error, warn, info, debug, trace]

def rank : Level → Nat
  | error => 1
  | warn => 2
  | info => 3
  | debug => 4
  | trace => 5

def name : Level → String
  | error => "ERROR"
  | warn => "WARN"
  | info => "INFO"
  | debug => "DEBUG"
  | trace => "TRACE"

/-- The name as it appears inside a shown configuration. -/
def title : Level → String
  | error => "Error"
  | warn => "Warn"
  | info => "Info"
  | debug => "Debug"
  | trace => "Trace"

/-- Events of `level` pass a filter set to `limit`. -/
def passes (level limit : Level) : Bool := level.rank ≤ limit.rank

def ofRank? (n : Nat) : Option Level := all.find? (·.rank = n)

def ofName? (s : String) : Option Level := all.find? fun l => Text.sameLetters l.name s

end Level

/-- A decimal numeral below 2^64, with an optional plus sign and any number of leading zeros. -/
def Text.word64? (s : String) : Option Nat :=
  let digits := match s.toList with
    | '+' :: rest => rest
    | cs => cs
  if digits.isEmpty || !digits.all Char.isDigit then none
  else
    let n := digits.foldl (fun n c => n * 10 + (c.toNat - '0'.toNat)) 0
    if n < UInt64.size then some n else none

/-- Reads a rank or a name. -/
def Level.ofText? (s : String) : Option Level :=
  ((Text.word64? s).bind Level.ofRank?).or (Level.ofName? s)

end TensorMemory
