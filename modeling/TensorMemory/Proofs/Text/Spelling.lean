import Mathlib
import TensorMemory.Text.Blank
import TensorMemory.Text.Case

/-!
How a word may be written: with each letter in either case (`Recased`) and with blank space around
it (`Padded`). To compare in lower case is to ask for the first (`lower_eq_lower_iff`), and to trim
is to undo the second, as long as the word has no blank space of its own (`exists_padded_iff`).
-/

namespace TensorMemory.Text

variable {word s : String}

/-! ## Letter case -/

/-- The word with each letter in either case, and everything else as it is. -/
def Recased (word s : String) : Prop :=
  List.Forall₂ (fun c d => d = c.toLower ∨ d = c.toUpper) word.toList s.toList

theorem toLower_eq_toLower_iff {c d : Char} :
    c.toLower = d.toLower ↔ d = c.toLower ∨ d = c.toUpper := by
  constructor
  · intro h
    by_cases hd : d.isUpper = true
    · have hupper : d.toUpper = d :=
        Char.toUpper_eq_of_not_isLower (Char.not_isLower_of_isUpper hd)
      right
      calc d = d.toLower.toUpper := by rw [Char.toUpper_toLower_eq_toUpper, hupper]
        _ = c.toUpper := by rw [← h, Char.toUpper_toLower_eq_toUpper]
    · left
      rw [h, Char.toLower_eq_of_not_isUpper hd]
  · rintro (rfl | rfl)
    · exact (Char.toLower_toLower_eq_toLower c).symm
    · exact (Char.toLower_toUpper_eq_toLower c).symm

/-- Comparing in lower case leaves the case of each letter open, and nothing else. -/
theorem lower_eq_lower_iff : lower s = lower word ↔ Recased word s := by
  rw [lower, lower, String.ofList_inj, eq_comm, ← List.forall₂_eq_eq_eq,
    List.forall₂_map_left_iff, List.forall₂_map_right_iff]
  simp only [toLower_eq_toLower_iff, Recased]

/-! ## Blank space -/

/-- The word with any blank space before and behind it. -/
def Padded (word s : String) : Prop :=
  ∃ before after : List Char, s.toList = before ++ word.toList ++ after ∧
    (∀ c ∈ before, isBlank c = true) ∧ ∀ c ∈ after, isBlank c = true

/-- No blank space at all. -/
def Solid (s : String) : Prop := ∀ c ∈ s.toList, isBlank c = false

instance (s : String) : Decidable (Solid s) :=
  List.decidableBAll (fun c => isBlank c = false) s.toList

theorem isBlank_of_isAlpha {c : Char} (h : c.isAlpha = true) : isBlank c = false := by
  simp only [Char.isAlpha, Char.isUpper, Char.isLower, Bool.or_eq_true, Bool.and_eq_true,
    decide_eq_true_eq, UInt32.le_iff_toNat_le, Char.reduceVal, UInt32.reduceToNat,
    Char.toNat_val] at h
  simp only [isBlank, Bool.or_eq_false_iff, Bool.and_eq_false_iff, decide_eq_false_iff_not,
    beq_eq_false_iff_ne]
  omega

theorem isBlank_toLower (c : Char) : isBlank c.toLower = isBlank c := by
  by_cases h : c.isAlpha = true
  · rw [isBlank_of_isAlpha h, isBlank_of_isAlpha ((Char.isAlpha_toLower_eq_isAlpha c).trans h)]
  · have hupper : ¬c.isUpper = true := fun hc => h (by rw [Char.isAlpha, hc, Bool.true_or])
    rw [Char.toLower_eq_of_not_isUpper hupper]

theorem solid_lower_iff : Solid (lower s) ↔ Solid s := by
  simp [Solid, lower, isBlank_toLower]

theorem Recased.solid (h : Recased word s) (hword : Solid word) : Solid s := by
  rw [← solid_lower_iff, lower_eq_lower_iff.2 h]
  exact solid_lower_iff.2 hword

theorem padded_trim (s : String) : Padded (trim s) s := by
  refine ⟨s.toList.takeWhile isBlank, (s.toList.dropWhile isBlank).rtakeWhile isBlank, ?_,
    fun c hc => List.mem_takeWhile_imp hc, fun c hc => List.mem_rtakeWhile_imp hc⟩
  have hkept : (trim s).toList = (s.toList.dropWhile isBlank).rdropWhile isBlank :=
    String.toList_ofList
  rw [hkept, List.append_assoc, List.rdropWhile_append_rtakeWhile,
    List.takeWhile_append_dropWhile]

theorem dropWhile_isBlank {cs : List Char} (h : ∀ c ∈ cs, isBlank c = false) :
    cs.dropWhile isBlank = cs := by
  cases cs with
  | nil => rfl
  | cons c cs => exact List.dropWhile_cons_of_neg (by rw [h c (.head _)]; decide)

theorem trimChars_padded {before cs after : List Char} (hbefore : ∀ c ∈ before, isBlank c = true)
    (hcs : ∀ c ∈ cs, isBlank c = false) (hafter : ∀ c ∈ after, isBlank c = true) :
    trimChars (before ++ cs ++ after) = cs := by
  rw [trimChars, List.append_assoc, List.dropWhile_append_of_pos hbefore]
  cases cs with
  | nil =>
    rw [List.nil_append, List.dropWhile_eq_nil_iff.2 hafter]
    rfl
  | cons c cs =>
    have hback : ∀ d ∈ after.reverse, isBlank d = true := fun d hd =>
      hafter d (List.mem_reverse.1 hd)
    have hword : ∀ d ∈ (c :: cs).reverse, isBlank d = false := fun d hd =>
      hcs d (List.mem_reverse.1 hd)
    have hfirst : ¬isBlank c = true := by rw [hcs c (.head _)]; decide
    rw [List.cons_append, List.dropWhile_cons_of_neg hfirst, ← List.cons_append,
      List.reverse_append, List.dropWhile_append_of_pos hback, dropWhile_isBlank hword,
      List.reverse_reverse]

theorem Padded.trim_eq (h : Padded word s) (hword : Solid word) : trim s = word := by
  obtain ⟨before, after, hs, hbefore, hafter⟩ := h
  rw [trim, hs, trimChars_padded hbefore hword hafter, String.ofList_toList]

/-- Trimming looks for what was padded. -/
theorem exists_padded_iff {P : String → Prop} (hsolid : ∀ word, P word → Solid word) :
    (∃ word, P word ∧ Padded word s) ↔ P (trim s) := by
  constructor
  · rintro ⟨word, hword, hpadded⟩
    rwa [hpadded.trim_eq (hsolid word hword)]
  · intro h
    exact ⟨trim s, h, padded_trim s⟩

end TensorMemory.Text
