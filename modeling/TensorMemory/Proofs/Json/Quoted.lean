import TensorMemory.Json.Reader

/-!
Reading back a quoted string. Whatever character is written, its escape is read as one piece, and
that piece alone writes the character again: a control character without a short escape comes back
as a code unit, which is no surrogate, and everything else as the character itself.
-/

namespace TensorMemory.Json

/-- The text in front is read as one piece, and the piece writes the character. -/
def ReadsAs (text : List Char) (c : Char) : Prop :=
  ∃ piece, (∀ rest, pieces (text ++ rest) =
      (pieces rest).bind fun p => some (piece :: p.1, p.2)) ∧
    ∀ ps, assemble (piece :: ps) = (assemble ps).map (c :: ·)

theorem readsAs_of_char {text : List Char} {c : Char}
    (h : ∀ rest, pieces (text ++ rest) =
      (pieces rest).bind fun p => some (.char c :: p.1, p.2)) : ReadsAs text c :=
  ⟨.char c, h, fun ps => by rw [assemble]⟩

/-- A character that needs no escape is read as itself. -/
theorem readsAs_plain {c : Char} (hquote : c ≠ '"') (hbackslash : c ≠ '\\')
    (hcontrol : ¬ c.toNat < 0x20) : ReadsAs [c] c := by
  refine readsAs_of_char fun rest => ?_
  rw [List.cons_append, List.nil_append, pieces.eq_def]
  split
  case h_4 heq =>
    obtain ⟨rfl, rfl⟩ := List.cons.inj heq
    rw [if_neg (not_or.mpr ⟨hbackslash, hcontrol⟩)]
    rfl
  all_goals simp_all

/-- The four digits of a control character are read as its code. -/
theorem hexUnit?_padLeft : ∀ n < 0x20, ∃ a b c d,
    Text.padLeft 4 (Nat.toDigits 16 n) = [a, b, c, d] ∧ hexUnit? a b c d = some n := by
  have hall : ∀ n < 0x20,
      Text.padLeft 4 (Nat.toDigits 16 n) = ['0', '0', (n / 16).digitChar, (n % 16).digitChar] ∧
        hexUnit? '0' '0' (n / 16).digitChar (n % 16).digitChar = some n := by decide
  intro n hn
  obtain ⟨hdigits, hunit⟩ := hall n hn
  exact ⟨_, _, _, _, hdigits, hunit⟩

/-- A control character in its numeric escape is read as a code unit, and none is a surrogate. -/
theorem readsAs_control {c : Char} (h : c.toNat < 0x20) :
    ReadsAs ('\\' :: 'u' :: Text.padLeft 4 (Nat.toDigits 16 c.toNat)) c := by
  obtain ⟨a, b, d, e, hdigits, hunit⟩ := hexUnit?_padLeft c.toNat h
  refine ⟨.unit c.toNat, fun rest => ?_, fun ps => ?_⟩
  · simp only [hdigits, List.cons_append, List.nil_append, pieces, hunit]
    rfl
  · rw [assemble.eq_def]
    simp only
    rw [if_neg (by omega), if_neg (by omega), Char.ofNat_toNat]

theorem readsAs_escapeChar (c : Char) : ReadsAs (escapeChar c) c := by
  unfold escapeChar
  -- The seven short escapes.
  iterate 7
    split
    · subst_vars; exact readsAs_of_char fun rest => by simp [pieces]
  split
  · exact readsAs_control ‹_›
  · exact readsAs_plain ‹_› ‹_› ‹_›

theorem pieces_escaped (cs rest : List Char) : ∃ ps,
    pieces (cs.flatMap escapeChar ++ '"' :: rest) = some (ps, rest) ∧ assemble ps = some cs := by
  induction cs with
  | nil => exact ⟨[], rfl, rfl⟩
  | cons c cs ih =>
    obtain ⟨ps, hread, hwrite⟩ := ih
    obtain ⟨piece, hpiece, hchar⟩ := readsAs_escapeChar c
    refine ⟨piece :: ps, ?_, by rw [hchar, hwrite]; rfl⟩
    rw [List.flatMap_cons, List.append_assoc, hpiece, hread]
    rfl

/-- A quoted string reads back from behind its opening quote. -/
theorem string?_escaped (s : String) (rest : List Char) :
    string? (s.toList.flatMap escapeChar ++ '"' :: rest) = some (some s, rest) := by
  obtain ⟨ps, hread, hwrite⟩ := pieces_escaped s.toList rest
  simp [string?, hread, hwrite]

end TensorMemory.Json
