import Mathlib.Data.List.Induction
import TensorMemory.Proofs.Text.Spelling
import TensorMemory.Tracing.Level

/-!
Which texts are levels: the numerals of the five ranks, with a plus sign or not and with any number
of zeros in front, and the five names in any letter case (`ofText?_eq_some_iff`). A text is never
both, and blank space is in none of them.
-/

namespace TensorMemory

namespace Text

variable {n : Nat} {s : String}

/-! ## Numerals -/

/-- The digits of the number behind any number of zeros, and a plus sign before them or not. -/
def Numeral (n : Nat) (s : String) : Prop :=
  ∃ (sign : List Char) (zeros : Nat), (sign = [] ∨ sign = ['+']) ∧
    s.toList = sign ++ (List.replicate zeros '0' ++ Nat.toDigits 10 n)

theorem digitChar_toNat {c : Char} (h : c.isDigit = true) :
    c.toNat - '0'.toNat < 10 ∧ (c.toNat - '0'.toNat).digitChar = c := by
  have hrange : 48 ≤ c.toNat ∧ c.toNat ≤ 57 := Char.isDigit_iff_toNat.1 h
  have hlt : c.toNat - '0'.toNat < 10 := by
    rw [show '0'.toNat = 48 from rfl]
    omega
  refine ⟨hlt, Char.toNat_inj.1 ?_⟩
  rw [Nat.toNat_digitChar_of_lt_ten hlt, show '0'.toNat = 48 from rfl]
  omega

/-- Digits are those of their number, behind zeros. -/
theorem digits_eq {digits : List Char} (hne : digits ≠ [])
    (hdigit : ∀ c ∈ digits, c.isDigit = true) :
    ∃ zeros, digits =
      List.replicate zeros '0' ++ Nat.toDigits 10 (Nat.ofDigitChars 10 digits 0) := by
  induction digits using List.reverseRecOn with
  | nil => exact absurd rfl hne
  | append_singleton front c ih =>
    obtain ⟨hlt, hc⟩ := digitChar_toNat (hdigit c (by simp))
    have hvalue : Nat.ofDigitChars 10 (front ++ [c]) 0 =
        10 * Nat.ofDigitChars 10 front 0 + (c.toNat - '0'.toNat) := by
      rw [Nat.ofDigitChars_append, Nat.ofDigitChars_cons, Nat.ofDigitChars_nil]
    have hlast : Nat.toDigits 10 (c.toNat - '0'.toNat) = [c] := by
      rw [Nat.toDigits_of_lt_base hlt, hc]
    rw [hvalue]
    by_cases hfront : front = []
    · subst hfront
      exact ⟨0, by rw [Nat.ofDigitChars_nil, Nat.mul_zero, Nat.zero_add, hlast]; rfl⟩
    · obtain ⟨zeros, hzeros⟩ := ih hfront fun d hd => hdigit d (List.mem_append_left _ hd)
      obtain hzero | hpos := Nat.eq_zero_or_pos (Nat.ofDigitChars 10 front 0)
      · -- The digits so far are zeros themselves.
        rw [hzero, Nat.toDigits_zero, ← List.replicate_succ'] at hzeros
        exact ⟨zeros + 1, by rw [hzero, Nat.mul_zero, Nat.zero_add, hlast, hzeros]⟩
      · refine ⟨zeros, ?_⟩
        rw [← Nat.toDigits_append_toDigits (by decide) hpos hlt, hlast, ← List.append_assoc,
          ← hzeros]

theorem isDigit_of_mem_digits {zeros : Nat} {c : Char}
    (hc : c ∈ List.replicate zeros '0' ++ Nat.toDigits 10 n) : c.isDigit = true := by
  obtain hc | hc := List.mem_append.1 hc
  · rw [List.eq_of_mem_replicate hc]
    decide
  · exact Nat.isDigit_of_mem_toDigits (by decide) (by decide) hc

theorem Numeral.isDigit_of_mem (h : Numeral n s) {c : Char} (hc : c ∈ s.toList) :
    c = '+' ∨ c.isDigit = true := by
  obtain ⟨sign, zeros, hsign, hs⟩ := h
  rw [hs, List.mem_append] at hc
  obtain hc | hc := hc
  · obtain rfl | rfl := hsign
    · cases hc
    · exact .inl (List.mem_singleton.1 hc)
  · exact .inr (isDigit_of_mem_digits hc)

theorem not_isUpper_of_isDigit {c : Char} (h : c.isDigit = true) : ¬c.isUpper = true := by
  have hrange : 48 ≤ c.toNat ∧ c.toNat ≤ 57 := Char.isDigit_iff_toNat.1 h
  intro hupper
  have hletter : 65 ≤ c.toNat := by
    simp only [Char.isUpper, decide_eq_true_eq] at hupper
    exact hupper.1
  omega

/-- A numeral looks the same in lower case. -/
theorem Numeral.lower_eq (h : Numeral n s) : lower s = s := by
  have hsame : ∀ c ∈ s.toList, c.toLower = c := by
    intro c hc
    obtain rfl | hdigit := h.isDigit_of_mem hc
    · rfl
    · exact Char.toLower_eq_of_not_isUpper (not_isUpper_of_isDigit hdigit)
  rw [lower, List.map_congr_left hsame, List.map_id', String.ofList_toList]

theorem Numeral.solid (h : Numeral n s) : Solid s := by
  intro c hc
  obtain rfl | hdigit := h.isDigit_of_mem hc
  · rfl
  · have hrange : 48 ≤ c.toNat ∧ c.toNat ≤ 57 := Char.isDigit_iff_toNat.1 hdigit
    simp only [isBlank, Bool.or_eq_false_iff, Bool.and_eq_false_iff, decide_eq_false_iff_not,
      beq_eq_false_iff_ne]
    omega

/-- The text behind its plus sign, if it has one. -/
def unsigned : List Char → List Char
  | '+' :: rest => rest
  | cs => cs

theorem eq_append_unsigned (cs : List Char) :
    ∃ sign, (sign = [] ∨ sign = ['+']) ∧ cs = sign ++ unsigned cs := by
  unfold unsigned
  split
  · exact ⟨['+'], .inr rfl, rfl⟩
  · exact ⟨[], .inl rfl, rfl⟩

theorem unsigned_append {sign digits : List Char} (hsign : sign = [] ∨ sign = ['+'])
    (hdigit : ∀ c ∈ digits, c.isDigit = true) : unsigned (sign ++ digits) = digits := by
  obtain rfl | rfl := hsign
  · rw [List.nil_append]
    unfold unsigned
    split
    · exact absurd (hdigit '+' (.head _)) (by decide)
    · rfl
  · rfl

theorem word64?_eq_some_iff_digits :
    word64? s = some n ↔ unsigned s.toList ≠ [] ∧
      (∀ c ∈ unsigned s.toList, c.isDigit = true) ∧
      Nat.ofDigitChars 10 (unsigned s.toList) 0 < UInt64.size ∧
      Nat.ofDigitChars 10 (unsigned s.toList) 0 = n := by
  have hvalue : ∀ digits : List Char,
      digits.foldl (fun n c => n * 10 + (c.toNat - '0'.toNat)) 0 =
        Nat.ofDigitChars 10 digits 0 := fun digits => by
    simp only [Nat.ofDigitChars_eq_foldl, Nat.mul_comm]
  have hdef : word64? s =
      if (unsigned s.toList).isEmpty || !(unsigned s.toList).all Char.isDigit then none
      else if Nat.ofDigitChars 10 (unsigned s.toList) 0 < UInt64.size then
        some (Nat.ofDigitChars 10 (unsigned s.toList) 0)
      else none := by
    rw [← hvalue]
    rfl
  rw [hdef, Option.ite_none_left_eq_some, Option.ite_none_right_eq_some]
  simp only [Bool.or_eq_true, not_or, List.isEmpty_iff, Bool.not_eq_true', Bool.not_eq_false,
    List.all_eq_true, Option.some.injEq, and_assoc, ne_eq]

/-- The numbers of 64 bits read from their numerals. -/
theorem word64?_eq_some_iff : word64? s = some n ↔ Numeral n s ∧ n < UInt64.size := by
  rw [word64?_eq_some_iff_digits]
  constructor
  · rintro ⟨hne, hdigit, hlt, rfl⟩
    obtain ⟨sign, hsign, hs⟩ := eq_append_unsigned s.toList
    obtain ⟨zeros, hdigits⟩ := digits_eq hne hdigit
    exact ⟨⟨sign, zeros, hsign, hdigits ▸ hs⟩, hlt⟩
  · rintro ⟨⟨sign, zeros, hsign, hs⟩, hlt⟩
    have hdigit : ∀ c ∈ List.replicate zeros '0' ++ Nat.toDigits 10 n, c.isDigit = true :=
      fun c => isDigit_of_mem_digits
    rw [hs, unsigned_append hsign hdigit]
    have hvalue : Nat.ofDigitChars 10 (List.replicate zeros '0' ++ Nat.toDigits 10 n) 0 = n := by
      rw [Nat.ofDigitChars_append, Nat.ofDigitChars_replicate_zero, Nat.mul_zero,
        Nat.ofDigitChars_ten_toDigits]
    exact ⟨List.append_ne_nil_of_right_ne_nil _ Nat.toDigits_ne_nil, hdigit,
      hvalue.symm ▸ hlt, hvalue⟩

end Text

/-! ## Levels -/

namespace Level

variable {n : Nat} {s : String} {level : Level}

/-- The text is the level's rank or, in any letter case, its name. -/
def Spelled (level : Level) (s : String) : Prop :=
  Text.Numeral level.rank s ∨ Text.Recased level.name s

theorem Spelled.solid (h : level.Spelled s) : Text.Solid s := by
  have hname : Text.Solid level.name := by cases level <;> decide +kernel
  obtain hrank | hletters := h
  · exact hrank.solid
  · exact hletters.solid hname

theorem ofRank?_eq_some_iff : ofRank? n = some level ↔ level.rank = n := by
  constructor
  · intro h
    simpa using List.find?_some h
  · rintro rfl
    cases level <;> rfl

theorem ofName?_eq_some_iff : ofName? s = some level ↔ Text.Recased level.name s := by
  rw [← Text.lower_eq_lower_iff]
  constructor
  · intro h
    have hsame := List.find?_some h
    exact (beq_iff_eq.1 hsame).symm
  · intro h
    have hall : ∀ level : Level,
        (all.find? fun l => Text.lower l.name == Text.lower level.name) = some level := by
      intro level
      cases level <;> decide +kernel
    simp only [ofName?, Text.sameLetters, h, hall]

/-- A name is no numeral: a numeral looks the same in lower case, where all names have letters. -/
theorem word64?_of_recased (h : Text.Recased level.name s) : Text.word64? s = none := by
  cases hs : Text.word64? s with
  | none => rfl
  | some n =>
    have hlower : Text.word64? (Text.lower level.name) = none := by
      cases level <;> decide +kernel
    have hnumeral := (Text.word64?_eq_some_iff.1 hs).1
    rw [← Text.lower_eq_lower_iff.2 h, hnumeral.lower_eq, hs] at hlower
    cases hlower

theorem bind_ofRank?_eq_some_iff :
    (Text.word64? s).bind ofRank? = some level ↔ Text.Numeral level.rank s := by
  have hlt : level.rank < UInt64.size := by cases level <;> decide
  simp only [Option.bind_eq_some_iff, ofRank?_eq_some_iff, exists_eq_right',
    Text.word64?_eq_some_iff, hlt, and_true]

theorem ofText?_eq_some_iff : ofText? s = some level ↔ level.Spelled s := by
  rw [ofText?, Option.or_eq_some_iff, bind_ofRank?_eq_some_iff, ofName?_eq_some_iff]
  constructor
  · rintro (hrank | ⟨-, hname⟩)
    · exact .inl hrank
    · exact .inr hname
  · rintro (hrank | hname)
    · exact .inl hrank
    · exact .inr ⟨by rw [word64?_of_recased hname]; rfl, hname⟩

end Level
end TensorMemory
