import TensorMemory.Proofs.Json.Reader

/-!
A written document stays on one line. Control characters are escaped inside strings and nothing else
could print one.
-/

namespace TensorMemory.Json

/-- No control character. -/
def isVisible (c : Char) : Bool := 0x20 ≤ c.toNat

theorem isVisible_of_isDigit {c : Char} (h : isDigit c = true) : isVisible c = true := by
  simp only [isDigit, Bool.and_eq_true, decide_eq_true_eq, Char.le_def, UInt32.le_iff_toNat_le] at h
  exact decide_eq_true (Nat.le_trans (by decide) h.1)

theorem visible_padLeft : ∀ n < 0x20,
    (Text.padLeft 4 (Nat.toDigits 16 n)).all isVisible = true := by decide

theorem visible_escapeChar (c : Char) : (escapeChar c).all isVisible = true := by
  unfold escapeChar
  -- The seven short escapes.
  iterate 7
    split
    · rfl
  split
  · next hcontrol => exact visible_padLeft c.toNat hcontrol
  · next hcontrol => simpa [isVisible] using hcontrol

theorem visible_quote (s : String) : (quote s).all isVisible = true := by
  have hquote : isVisible '"' = true := rfl
  simp [quote, hquote, List.all_flatMap, visible_escapeChar]

namespace Value

@[simp] theorem isVisible_punctuation : isVisible ',' = true ∧ isVisible ':' = true ∧
    isVisible '[' = true ∧ isVisible ']' = true ∧ isVisible '\x7b' = true ∧
    isVisible '\x7d' = true := by decide

mutual

theorem visible_print : ∀ v : Value, v.print.all isVisible = true
  | .null | .bool true | .bool false => rfl
  | .number _ => List.all_eq_true.mpr fun _ hc => isVisible_of_isDigit (isDigit_of_mem_toDigits hc)
  | .string _ => visible_quote _
  | .array items => by simp [print, visible_printItems items]
  | .object members => by simp [print, visible_printMembers members]

theorem visible_printItems : ∀ vs : List Value, (printItems vs).all isVisible = true
  | [] => rfl
  | [v] => visible_print v
  | v :: w :: vs => by
    simp [printItems_cons_cons, visible_print v, visible_printItems (w :: vs)]

theorem visible_printMembers : ∀ ms : List (Option String × Value),
    (printMembers ms).all isVisible = true
  | [] => rfl
  | [(k, v)] => by simp [printMembers, visible_quote, visible_print v]
  | (k, v) :: m :: ms => by
    simp [printMembers_cons_cons, visible_quote, visible_print v, visible_printMembers (m :: ms)]

end

theorem newline_notMem_render (v : Value) : '\n' ∉ v.render.toList := by
  intro h
  rw [render, String.toList_ofList] at h
  exact absurd (List.all_eq_true.mp v.visible_print _ h) (by decide)

end Value
end TensorMemory.Json
