import Mathlib.Data.String.Basic
import TensorMemory.Metric.Exporter

/-!
Texts and their lines. Splitting a text at its line ends is splitting the list of its characters,
and lines that are written one after another, each with its end, come back as they are.
-/

namespace TensorMemory

open String

/-- The splitting loop between two line ends: behind `done`, with `piece` already passed. -/
theorem splitOnAux_newline (done piece rest : List Char) (acc : List String) :
    (ofList (done ++ piece ++ rest)).splitOnAux "\n" ⟨utf8Len done⟩ ⟨utf8Len (done ++ piece)⟩ 0
        acc =
      acc.reverse ++ (List.splitOnPPrepend (· == '\n') rest piece.reverse).map ofList := by
  induction rest generalizing done piece acc with
  | nil =>
    have hend := (atEnd_of_valid (done ++ piece) []).mpr rfl
    have hpiece := extract_of_valid done piece []
    rw [← utf8Len_append] at hpiece
    rw [splitOnAux.eq_def, if_pos hend, hpiece]
    simp [List.splitOnPPrepend]
  | cons c rest ih =>
    have hend : ¬ (⟨utf8Len (done ++ piece)⟩ : Pos.Raw).atEnd (ofList (done ++ piece ++ c :: rest)) =
        true := by rw [atEnd_of_valid]; exact List.cons_ne_nil c rest
    have hget := get_of_valid (done ++ piece) (c :: rest)
    have hnext := next_of_valid (done ++ piece) c rest
    have hpiece := extract_of_valid done piece (c :: rest)
    rw [← utf8Len_append] at hpiece
    rw [splitOnAux.eq_def, if_neg hend, hget, List.headD_cons]
    by_cases hc : c = '\n'
    · subst hc
      have hfirst : ('\n' == Pos.Raw.get "\n" 0) = true := by rfl
      have hdone : (Pos.Raw.next "\n" 0).atEnd "\n" = true := by rfl
      have hback : (⟨utf8Len (done ++ piece) + '\n'.utf8Size⟩ : Pos.Raw).unoffsetBy
          (Pos.Raw.next "\n" 0) = ⟨utf8Len (done ++ piece)⟩ := by
        rfl
      have hrest := ih (done ++ piece ++ ['\n']) [] (ofList piece :: acc)
      simp only [hfirst, hdone, hnext, hback, hpiece, if_true]
      simpa [List.splitOnPPrepend_cons_eq_if, -ofList_append, Nat.add_assoc] using hrest
    · have hother : ¬ (c == Pos.Raw.get "\n" 0) = true := by
        rwa [show Pos.Raw.get "\n" 0 = '\n' from rfl, beq_iff_eq]
      have hsame : (⟨utf8Len (done ++ piece)⟩ : Pos.Raw).unoffsetBy 0 = ⟨utf8Len (done ++ piece)⟩ := rfl
      have hrest := ih done (piece ++ [c]) acc
      rw [if_neg hother, hsame, hnext]
      simpa [List.splitOnPPrepend_cons_eq_if, hc, -ofList_append, Nat.add_assoc] using hrest

theorem splitOn_newline (s : String) : s.splitOn "\n" = (s.toList.splitOn '\n').map ofList := by
  have hloop := splitOnAux_newline [] [] s.toList []
  rw [List.append_nil, List.nil_append, ofList_toList] at hloop
  exact hloop

/-- Pieces that were ended one by one come back, with nothing behind the last end. -/
theorem splitOn_ended {x : Char} (pieces : List (List Char)) (h : ∀ p ∈ pieces, x ∉ p) :
    (pieces.flatMap (· ++ [x])).splitOn x = pieces ++ [[]] := by
  induction pieces with
  | nil => rfl
  | cons p ps ih =>
    have hpiece : p.splitOnP (· == x) = [p] := by
      apply List.splitOnP_eq_singleton
      intro c hc
      exact beq_false_of_ne (ne_of_mem_of_not_mem hc (h p List.mem_cons_self))
    have hrest : (ps.flatMap (· ++ [x])).splitOnP (· == x) = ps ++ [[]] :=
      ih fun q hq => h q (List.mem_cons_of_mem p hq)
    have hsplit := List.splitOnP_append_cons (p := (· == x)) p (ps.flatMap (· ++ [x]))
      (beq_self_eq_true x)
    rw [hpiece, hrest] at hsplit
    rw [List.flatMap_cons, List.append_assoc]
    exact hsplit

/-- Lines that are written one after another come back as they are. -/
theorem textLines_join (lines : List String) (h : ∀ l ∈ lines, '\n' ∉ l.toList) :
    textLines (String.join (lines.map (· ++ "\n"))) = lines := by
  have hchars : (String.join (lines.map (· ++ "\n"))).toList =
      (lines.map toList).flatMap (· ++ ['\n']) := by
    rw [toList_join, List.flatMap_map, List.flatMap_map]
    simp
  have hsplit : (String.join (lines.map (· ++ "\n"))).splitOn "\n" = lines ++ [""] := by
    rw [splitOn_newline, hchars, splitOn_ended _ (by simpa using h)]
    simp
  rw [textLines, hsplit, List.reverse_append]
  exact lines.reverse_reverse

end TensorMemory
