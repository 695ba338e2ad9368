import TensorMemory.Json.Reader

/-!
Reading back a natural number. Its digits are all taken, because the first of them is a zero only
when there is no other, and nothing else is, provided that the text behind them cannot continue a
number.
-/

namespace TensorMemory.Json

/-- A text that cannot continue a number that stands before it. -/
def endsNumber : List Char → Bool
  | [] => true
  | c :: _ => !isDigit c && c ≠ '.' && c ≠ 'e' && c ≠ 'E'

theorem isDigit_of_mem_toDigits {n : Nat} {c : Char} (h : c ∈ Nat.toDigits 10 n) :
    isDigit c = true := by
  have hdigit := Nat.isDigit_of_mem_toDigits (by decide) (by decide) h
  simpa [isDigit, Char.isDigit, Char.le_def, and_comm] using hdigit

theorem digitsToNat_toDigits (n : Nat) : digitsToNat (Nat.toDigits 10 n) = n := by
  calc digitsToNat (Nat.toDigits 10 n)
      = Nat.ofDigitChars 10 (Nat.toDigits 10 n) 0 := by
        rw [Nat.ofDigitChars_eq_foldl]
        simp only [digitsToNat, Nat.mul_comm]
        rfl
    _ = n := Nat.ofDigitChars_toDigits (by decide) (by decide)

/-- There is a first digit, and it is a zero only for zero itself. -/
theorem toDigits_eq_cons (n : Nat) :
    ∃ d ds, Nat.toDigits 10 n = d :: ds ∧ isDigit d = true ∧ (d = '0' → n = 0) := by
  have hfirst : ∃ d ds, Nat.toDigits 10 n = d :: ds ∧ (d = '0' → n = 0) := by
    induction n using Nat.strongRecOn with
    | ind n ih =>
      rw [Nat.toDigits_eq_if (by decide)]
      split
      · rename_i hlt
        have hall : ∀ d < 10, d.digitChar = '0' → d = 0 := by decide
        exact ⟨_, [], rfl, hall n hlt⟩
      · obtain ⟨d, ds, hdigits, hzero⟩ := ih (n / 10) (by omega)
        exact ⟨d, _, by rw [hdigits]; rfl, fun hd => by have := hzero hd; omega⟩
  obtain ⟨d, ds, hdigits, hzero⟩ := hfirst
  exact ⟨d, ds, hdigits, isDigit_of_mem_toDigits (hdigits ▸ List.mem_cons_self), hzero⟩

theorem digits?_toDigits (n : Nat) {rest : List Char} (h : endsNumber rest = true) :
    digits? (Nat.toDigits 10 n ++ rest) = some (Nat.toDigits 10 n, rest) := by
  have hall : ∀ c ∈ Nat.toDigits 10 n, isDigit c = true := fun c => isDigit_of_mem_toDigits
  have hrest : rest.takeWhile isDigit = [] ∧ rest.dropWhile isDigit = rest := by
    cases rest with
    | nil => exact ⟨rfl, rfl⟩
    | cons c rest => simp_all [endsNumber]
  unfold digits?
  rw [List.takeWhile_append_of_pos hall, List.dropWhile_append_of_pos hall, hrest.1, hrest.2,
    List.append_nil]
  split
  · exact absurd ‹_› Nat.toDigits_ne_nil
  · rfl

theorem integerPart?_toDigits (n : Nat) {rest : List Char} (h : endsNumber rest = true) :
    integerPart? (Nat.toDigits 10 n ++ rest) = some (Nat.toDigits 10 n, rest) := by
  obtain ⟨d, ds, hdigits, -, hzero⟩ := toDigits_eq_cons n
  by_cases hd : d = '0'
  · rw [hzero hd]; rfl
  · rw [integerPart?.eq_2, digits?_toDigits n h]
    rw [hdigits]
    intro cs heq
    exact hd (List.cons.inj heq).1

/-- A natural number reads back from its digits. -/
theorem number?_toDigits (n : Nat) {rest : List Char} (h : endsNumber rest = true) :
    number? (Nat.toDigits 10 n ++ rest) = some (.ofNat n, rest) := by
  have hwhole := integerPart?_toDigits n h
  obtain ⟨d, ds, hdigits, hdigit, -⟩ := toDigits_eq_cons n
  have hsign : d ≠ '-' := by rintro rfl; exact absurd hdigit (by decide)
  have hvalue := digitsToNat_toDigits n
  rw [hdigits] at hwhole hvalue ⊢
  cases rest with
  | nil => simp_all [number?, Number.ofNat]
  | cons c rest =>
    simp only [endsNumber, Bool.and_eq_true, decide_eq_true_eq] at h
    simp_all [number?, Number.ofNat]

end TensorMemory.Json
