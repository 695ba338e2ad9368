import TensorMemory.Bytes
import TensorMemory.Text.Case
import TensorMemory.Text.Quoted

/-!
Texts as the system holds them: bytes that need not form a text. Bytes that do form one are always
kept as that text.
-/

namespace TensorMemory

/-- The character that the bytes begin with. -/
def Bytes.firstChar? (bytes : Bytes) : Option Char :=
  [1, 2, 3, 4].findSome? fun length =>
    match (String.fromUTF8? ⟨(bytes.take length).toArray⟩).map String.toList with
    | some [c] => some c
    | _ => none

inductive NativeText where
  | text (s : String)
  | undecodable (bytes : Bytes)
  deriving DecidableEq, Repr

namespace NativeText

def ofBytes (bytes : Bytes) : NativeText :=
  match String.fromUTF8? ⟨bytes.toArray⟩ with
  | some s => .text s
  | none => .undecodable bytes

def toBytes : NativeText → Bytes
  | text s => s.toUTF8.toList
  | undecodable bytes => bytes

def text? : NativeText → Option String
  | text s => some s
  | undecodable _ => none

/-- No system call takes a text that contains a null character. -/
def hasNull : NativeText → Bool
  | text s => s.toList.contains '\x00'
  | undecodable bytes => bytes.contains 0

/-- The characters among the bytes as in any quoted text, and each byte that belongs to none as its
two digits. The first argument counts the bytes of a character that has been shown already. -/
def shownBytes : Nat → Bytes → String
  | _, [] => ""
  | covered + 1, _ :: rest => shownBytes covered rest
  | 0, b :: rest =>
    match Bytes.firstChar? (b :: rest) with
    | some c => Text.escapeChar c ++ shownBytes (c.utf8Size - 1) rest
    | none => "\\x" ++ Text.upper (Text.hexDigits 2 b.toNat) ++ shownBytes 0 rest

/-- In quotes. -/
def quoted : NativeText → String
  | text s => Text.quoted s
  | undecodable bytes => "\"" ++ shownBytes 0 bytes ++ "\""

end NativeText
end TensorMemory
