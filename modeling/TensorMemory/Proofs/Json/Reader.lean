import TensorMemory.Proofs.Json.Number
import TensorMemory.Proofs.Json.Quoted

/-!
A written document reads back. This holds of every value that is written in full: its numbers are
natural ones and its strings are texts. Two units of fuel for each character are enough for a value,
and one more for what stands between brackets.
-/

namespace TensorMemory.Json
namespace Value

mutual

/-- What is written says all there is to say. -/
def complete : Value → Bool
  | .null | .bool _ => true
  | .number n => n = .ofNat n.digits
  | .string text => text.isSome
  | .array items => completeItems items
  | .object members => completeMembers members

def completeItems : List Value → Bool
  | [] => true
  | v :: vs => complete v && completeItems vs

def completeMembers : List (Option String × Value) → Bool
  | [] => true
  | (k, v) :: ms => k.isSome && complete v && completeMembers ms

end

/-- A written value begins with a character that is neither blank nor a closing bracket. -/
theorem print_eq_cons (v : Value) : ∃ c cs, v.print = c :: cs ∧ isBlank c = false ∧ c ≠ ']' := by
  cases v with
  | null => exact ⟨'n', _, rfl, rfl, by decide⟩
  | bool b => cases b <;> exact ⟨_, _, rfl, rfl, by decide⟩
  | number n =>
    obtain ⟨d, ds, hdigits, hdigit, -⟩ := toDigits_eq_cons n.digits
    refine ⟨d, ds, hdigits, ?_, by rintro rfl; exact absurd hdigit (by decide)⟩
    simp only [isDigit, Bool.and_eq_true, decide_eq_true_eq] at hdigit
    simp only [isBlank, Bool.or_eq_false_iff, decide_eq_false_iff_not]
    refine ⟨⟨⟨?_, ?_⟩, ?_⟩, ?_⟩ <;> (rintro rfl; exact absurd hdigit (by decide))
  | string s => exact ⟨'"', _, rfl, rfl, by decide⟩
  | array items => exact ⟨'[', _, by rw [print], rfl, by decide⟩
  | object members => exact ⟨'\x7b', _, by rw [print], rfl, by decide⟩

theorem skipBlank_print (v : Value) (rest : List Char) :
    skipBlank (v.print ++ rest) = v.print ++ rest := by
  obtain ⟨c, cs, hprint, hblank, -⟩ := v.print_eq_cons
  rw [hprint]
  exact List.dropWhile_cons_of_neg (by simp [hblank])

end Value

open Value

theorem skipBlank_cons {c : Char} (cs : List Char) (h : isBlank c = false) :
    skipBlank (c :: cs) = c :: cs :=
  List.dropWhile_cons_of_neg (by simp [h])

theorem value?_number (n fuel : Nat) {rest : List Char} (h : endsNumber rest = true) :
    value? (fuel + 1) (Nat.toDigits 10 n ++ rest) = some (.number (.ofNat n), rest) := by
  have hnumber := number?_toDigits n h
  have hskip := skipBlank_print (.nat n) rest
  obtain ⟨d, ds, hdigits, hdigit, -⟩ := toDigits_eq_cons n
  simp only [Value.nat, print, Number.ofNat, hdigits] at hskip
  rw [hdigits] at hnumber ⊢
  unfold value?
  rw [hskip]
  split
  case h_7 => rw [hnumber]; rfl
  all_goals
    rename_i heq
    obtain ⟨rfl, -⟩ := List.cons.inj heq
    exact absurd hdigit (by decide)

theorem value?_quote (s : String) (fuel : Nat) (rest : List Char) :
    value? (fuel + 1) (quote s ++ rest) = some (.text s, rest) := by
  have hread := string?_escaped s rest
  simp_all [value?, quote, skipBlank_cons, isBlank, Value.text]

/-- An array whose items do not begin with its end is read by reading the items. -/
theorem value?_bracket {c : Char} (cs : List Char) (fuel : Nat) (hblank : isBlank c = false)
    (hend : c ≠ ']') :
    value? (fuel + 1) ('[' :: c :: cs) =
      (items? fuel (c :: cs)).map fun p => (.array p.1, p.2) := by
  simp only [value?, skipBlank_cons (c := '[') _ rfl, skipBlank_cons cs hblank]
  split
  · rename_i heq
    exact absurd (List.cons.inj heq).1 hend
  · rfl

/-- An object with a member is read by reading the members. -/
theorem value?_brace (cs : List Char) (fuel : Nat) :
    value? (fuel + 1) ('\x7b' :: '"' :: cs) =
      (members? fuel ('"' :: cs)).map fun p => (.object p.1, p.2) := by
  simp [value?, skipBlank_cons, isBlank]

/-- The last member is read by reading the value behind its name. -/
theorem members?_last (k : String) {cs : List Char} {fuel : Nat} {v : Value} {rest : List Char}
    (h : value? fuel cs = some (v, '\x7d' :: rest)) :
    members? (fuel + 1) (quote k ++ ':' :: cs) = some ([(some k, v)], rest) := by
  have hname := string?_escaped k (':' :: cs)
  simp [members?, quote, skipBlank_cons, isBlank, hname, h]

/-- A member before others is read by reading the value behind its name, and then the others. -/
theorem members?_more (k : String) {cs : List Char} {fuel : Nat} {v : Value}
    {ms : List (Option String × Value)} {rest rest' : List Char}
    (h : value? fuel cs = some (v, ',' :: rest)) (hmore : members? fuel rest = some (ms, rest')) :
    members? (fuel + 1) (quote k ++ ':' :: cs) = some ((some k, v) :: ms, rest') := by
  have hname := string?_escaped k (':' :: cs)
  simp [members?, quote, skipBlank_cons, isBlank, hname, h, hmore]

theorem printItems_cons_cons (v w : Value) (vs : List Value) :
    printItems (v :: w :: vs) = v.print ++ ',' :: printItems (w :: vs) := by
  simp [printItems]

theorem printMembers_cons_cons (k : Option String) (v : Value) (m : Option String × Value)
    (ms : List (Option String × Value)) :
    printMembers ((k, v) :: m :: ms) =
      quote (k.getD "") ++ ':' :: (v.print ++ ',' :: printMembers (m :: ms)) := by
  simp [printMembers]

theorem printItems_eq_cons (v : Value) (vs : List Value) :
    ∃ c cs, printItems (v :: vs) = c :: cs ∧ isBlank c = false ∧ c ≠ ']' := by
  obtain ⟨c, cs, hprint, hblank, hend⟩ := v.print_eq_cons
  cases vs with
  | nil => exact ⟨c, cs, by rw [printItems, hprint], hblank, hend⟩
  | cons w vs => exact ⟨c, _, by rw [printItems_cons_cons, hprint]; rfl, hblank, hend⟩

theorem printMembers_eq_cons (k : Option String) (v : Value)
    (ms : List (Option String × Value)) : ∃ cs, printMembers ((k, v) :: ms) = '"' :: cs := by
  cases ms with
  | nil => exact ⟨_, by rw [printMembers, quote]; rfl⟩
  | cons m ms => exact ⟨_, by rw [printMembers_cons_cons, quote]; rfl⟩

mutual

theorem value?_print : ∀ (v : Value) (fuel : Nat) (rest : List Char), v.complete = true →
    2 * v.print.length ≤ fuel → endsNumber rest = true →
    value? fuel (v.print ++ rest) = some (v, rest)
  | v, 0, rest, _, hfuel, _ => by
    obtain ⟨c, cs, hprint, -⟩ := v.print_eq_cons
    simp [hprint] at hfuel
  | .null, fuel + 1, rest, _, _, _ => by simp [print, value?, skipBlank_cons, isBlank]
  | .bool true, fuel + 1, rest, _, _, _ => by simp [print, value?, skipBlank_cons, isBlank]
  | .bool false, fuel + 1, rest, _, _, _ => by simp [print, value?, skipBlank_cons, isBlank]
  | .number n, fuel + 1, rest, hcomplete, _, hend => by
    have hn : n = .ofNat n.digits := by simpa [complete] using hcomplete
    rw [print, value?_number n.digits fuel hend, ← hn]
  | .string s, fuel + 1, rest, hcomplete, _, _ => by
    obtain ⟨s, rfl⟩ := Option.isSome_iff_exists.mp (by simpa [complete] using hcomplete)
    exact value?_quote s fuel rest
  | .array [], fuel + 1, rest, _, _, _ => by
    simp [print, printItems, value?, skipBlank_cons, isBlank]
  | .array (v :: vs), fuel + 1, rest, hcomplete, hfuel, _ => by
    simp only [print, List.length_cons, List.length_append] at hfuel
    have hitems := items?_print (v :: vs) fuel rest (by simp) (by simpa [complete] using hcomplete)
      (by omega)
    obtain ⟨c, cs, hprint, hblank, hend⟩ := printItems_eq_cons v vs
    rw [print, List.cons_append, List.append_assoc, hprint, List.cons_append,
      value?_bracket _ fuel hblank hend, ← List.cons_append, ← hprint]
    simp [hitems]
  | .object [], fuel + 1, rest, _, _, _ => by
    simp [print, printMembers, value?, skipBlank_cons, isBlank]
  | .object ((k, v) :: ms), fuel + 1, rest, hcomplete, hfuel, _ => by
    simp only [print, List.length_cons, List.length_append] at hfuel
    have hmembers := members?_print ((k, v) :: ms) fuel rest (by simp)
      (by simpa [complete] using hcomplete) (by omega)
    obtain ⟨cs, hprint⟩ := printMembers_eq_cons k v ms
    rw [print, List.cons_append, List.append_assoc, hprint, List.cons_append,
      value?_brace _ fuel, ← List.cons_append, ← hprint]
    simp [hmembers]

theorem items?_print : ∀ (vs : List Value) (fuel : Nat) (rest : List Char), vs ≠ [] →
    completeItems vs = true → 2 * (printItems vs).length + 1 ≤ fuel →
    items? fuel (printItems vs ++ ']' :: rest) = some (vs, rest)
  | [], _, _, hne, _, _ => absurd rfl hne
  | v :: _, 0, rest, _, _, hfuel => absurd hfuel (by omega)
  | [v], fuel + 1, rest, _, hcomplete, hfuel => by
    simp only [completeItems, Bool.and_true] at hcomplete
    simp only [printItems] at hfuel ⊢
    rw [items?, value?_print v fuel _ hcomplete (by omega) rfl]
    rfl
  | v :: w :: vs, fuel + 1, rest, _, hcomplete, hfuel => by
    rw [completeItems, Bool.and_eq_true] at hcomplete
    simp only [printItems_cons_cons, List.length_append, List.length_cons] at hfuel ⊢
    rw [List.append_assoc, List.cons_append, items?,
      value?_print v fuel _ hcomplete.1 (by omega) rfl]
    have hrest := items?_print (w :: vs) fuel rest (by simp) hcomplete.2 (by omega)
    simp [skipBlank_cons, isBlank, hrest]

theorem members?_print : ∀ (ms : List (Option String × Value)) (fuel : Nat) (rest : List Char),
    ms ≠ [] → completeMembers ms = true → 2 * (printMembers ms).length + 1 ≤ fuel →
    members? fuel (printMembers ms ++ '\x7d' :: rest) = some (ms, rest)
  | [], _, _, hne, _, _ => absurd rfl hne
  | _ :: _, 0, rest, _, _, hfuel => absurd hfuel (by omega)
  | (none, _) :: _, _ + 1, _, _, hcomplete, _ => by simp [completeMembers] at hcomplete
  | [(some k, v)], fuel + 1, rest, _, hcomplete, hfuel => by
    simp only [completeMembers, Option.isSome_some, Bool.true_and, Bool.and_true] at hcomplete
    simp only [printMembers, Option.getD_some, List.length_append, List.length_cons] at hfuel ⊢
    rw [List.append_assoc, List.cons_append]
    exact members?_last k (value?_print v fuel _ hcomplete (by omega) rfl)
  | (some k, v) :: m :: ms, fuel + 1, rest, _, hcomplete, hfuel => by
    rw [completeMembers, Option.isSome_some, Bool.true_and, Bool.and_eq_true] at hcomplete
    simp only [printMembers_cons_cons, Option.getD_some, List.length_append,
      List.length_cons] at hfuel ⊢
    rw [List.append_assoc, List.cons_append, List.append_assoc, List.cons_append]
    exact members?_more k (value?_print v fuel _ hcomplete.1 (by omega) rfl)
      (members?_print (m :: ms) fuel rest (by simp) hcomplete.2 (by omega))

end

/-- A value that is written in full reads back from its text. -/
theorem Value.parse?_render {v : Value} (h : v.complete = true) :
    Value.parse? v.render = some v := by
  have hchars : v.render.toList = v.print := String.toList_ofList
  have hread := value?_print v (2 * v.print.length + 2) [] h (Nat.le_add_right ..) rfl
  rw [List.append_nil] at hread
  rw [Value.parse?, hchars, Value.ofChars?, hread]
  rfl

end TensorMemory.Json
