/-
The lines of a text.

A text is cut at its line feeds.  Cutting it at an offset leaves the lines above the offset as
they are, and divides the line that holds the offset.  `exists_lines_append` says so, together with
how many lines are above and where the divided line begins.
-/
import TextGrammar.Proofs.Boundary

namespace TextGrammar
namespace Text

variable {a b s t l : Text} {ls : List Text} {c : Char}

/-- The bytes of some lines, each with the line feed behind it. -/
def linesSize : List Text → Nat
  | [] => 0
  | l :: ls => l.size + 1 + linesSize ls

theorem linesSize_append (ls ms : List Text) :
    linesSize (ls ++ ms) = linesSize ls + linesSize ms := by
  induction ls with
  | nil => simp [linesSize]
  | cons l ls ih =>
    rw [List.cons_append, linesSize, linesSize, ih]
    omega

theorem length_le_linesSize (ls : List Text) : ls.length ≤ linesSize ls := by
  induction ls with
  | nil => exact Nat.le_refl 0
  | cons l ls ih =>
    rw [List.length_cons, linesSize]
    omega

theorem size_reverse (t : Text) : size t.reverse = size t := by
  induction t with
  | nil => rfl
  | cons c t ih =>
    rw [List.reverse_cons, size_append, ih]
    simp only [size]
    omega

theorem size_lineFeed (t : Text) : size ('\n' :: t) = t.size + 1 := Nat.add_comm 1 t.size

/-! ## Lines from the front -/

theorem exists_lines_eq_cons (t : Text) : ∃ l ls, lines t = l :: ls := by
  cases t with
  | nil => exact ⟨[], [], rfl⟩
  | cons c t =>
    rw [lines]
    split
    · exact ⟨[], lines t, rfl⟩
    · split
      · exact ⟨[c], [], rfl⟩
      · exact ⟨_, _, rfl⟩

theorem lines_lineFeed (t : Text) : lines ('\n' :: t) = [] :: lines t := by
  rw [lines, if_pos rfl]

theorem lines_cons_of_ne (hc : c ≠ '\n') (h : lines t = l :: ls) :
    lines (c :: t) = (c :: l) :: ls := by
  rw [lines, if_neg hc, h]

/-- The lines are what a text falls into at its line feeds. -/
theorem lines_eq_splitOn (t : Text) : lines t = t.splitOn '\n' := by
  rw [List.splitOn]
  induction t with
  | nil => rfl
  | cons c t ih =>
    obtain ⟨l, ls, h⟩ := exists_lines_eq_cons t
    rw [List.splitOnP_cons_eq_if_modifyHead, ← ih]
    by_cases hc : c = '\n'
    · subst hc
      rw [lines_lineFeed, if_pos (beq_self_eq_true '\n')]
    · rw [lines_cons_of_ne hc h, if_neg (by simpa using hc), h, List.modifyHead_cons]

theorem lines_append_lineFeed (a b : Text) : lines (a ++ '\n' :: b) = lines a ++ lines b := by
  rw [lines_eq_splitOn, lines_eq_splitOn, lines_eq_splitOn]
  exact List.splitOnP_append_cons a b (beq_self_eq_true '\n')

theorem lines_append_of_not_mem (hs : '\n' ∉ s) (h : lines b = l :: ls) :
    lines (s ++ b) = (s ++ l) :: ls := by
  induction s with
  | nil => exact h
  | cons c s ih =>
    rw [List.mem_cons, not_or] at hs
    exact lines_cons_of_ne (Ne.symm hs.1) (ih hs.2)

theorem length_lines (t : Text) : (lines t).length = t.count '\n' + 1 := by
  induction t with
  | nil => rfl
  | cons c t ih =>
    by_cases hc : c = '\n'
    · subst hc
      rw [lines_lineFeed, List.length_cons, ih, List.count_cons_self]
    · obtain ⟨l, ls, h⟩ := exists_lines_eq_cons t
      rw [h, List.length_cons] at ih
      rw [lines_cons_of_ne hc h, List.length_cons, ih, List.count_cons_of_ne hc]

/-- There is one more line than there are line feeds. -/
theorem linesSize_lines (t : Text) : linesSize (lines t) = t.size + 1 := by
  induction t with
  | nil => rfl
  | cons c t ih =>
    by_cases hc : c = '\n'
    · subst hc
      rw [lines_lineFeed, linesSize, ih, size_lineFeed]
      simp only [size]
      omega
    · obtain ⟨l, ls, h⟩ := exists_lines_eq_cons t
      rw [h, linesSize] at ih
      rw [lines_cons_of_ne hc h, linesSize]
      simp only [size]
      omega

/-! ## The last line -/

/-- What is behind the last line feed, and where it begins. -/
theorem exists_lastLine (a : Text) :
    ∃ s : Text, '\n' ∉ s ∧ a.lastLineStart + s.size = a.size ∧
      (a = s ∨ ∃ p : Text, a = p ++ '\n' :: s) := by
  have hparts := List.takeWhile_append_dropWhile (p := (· ≠ '\n')) (l := a.reverse)
  have hhead := List.head?_dropWhile_not (p := (· ≠ '\n')) a.reverse
  have hsize := congrArg size hparts
  rw [size_append, size_reverse] at hsize
  refine ⟨(a.reverse.takeWhile (· ≠ '\n')).reverse, ?_, ?_, ?_⟩
  · rw [List.mem_reverse]
    intro hmem
    have hne := List.all_eq_true.mp List.all_takeWhile _ hmem
    simp at hne
  · rw [lastLineStart, size_reverse]
    omega
  · have hback := congrArg List.reverse hparts
    rw [List.reverse_append, List.reverse_reverse] at hback
    cases hrest : a.reverse.dropWhile (· ≠ '\n') with
    | nil =>
      rw [hrest] at hback
      exact .inl hback.symm
    | cons c r =>
      rw [hrest] at hhead hback
      have hc : c = '\n' := by simpa using hhead
      subst hc
      rw [List.reverse_cons, List.append_assoc, List.singleton_append] at hback
      exact .inr ⟨r.reverse, hback.symm⟩

/-- The lines of a text that is cut after `a`.  The lines in front of the last one of `a` are lines
of the whole text, and the last one goes on with the first line of what follows. -/
theorem exists_lines_append (a : Text) :
    ∃ (above : List Text) (s : Text), above.length = a.count '\n' ∧
      a.lastLineStart = linesSize above ∧ a.size = linesSize above + s.size ∧
      ∀ b l ls, lines b = l :: ls → lines (a ++ b) = above ++ (s ++ l) :: ls := by
  obtain ⟨s, hs, hstart, rfl | ⟨p, rfl⟩⟩ := exists_lastLine a
  · refine ⟨[], a, ?_, ?_, ?_, fun b l ls h => lines_append_of_not_mem hs h⟩
    · rw [List.count_eq_zero_of_not_mem hs]
      rfl
    · rw [linesSize]
      omega
    · rw [linesSize, Nat.zero_add]
  · have hsize : size (p ++ '\n' :: s) = p.size + 1 + s.size := by
      rw [size_append, size_lineFeed]
      omega
    refine ⟨lines p, s, ?_, ?_, ?_, fun b l ls h => ?_⟩
    · rw [length_lines, List.count_append, List.count_cons_self,
        List.count_eq_zero_of_not_mem hs]
    · rw [linesSize_lines]
      omega
    · rw [linesSize_lines, hsize]
    · rw [List.append_assoc, List.cons_append, lines_append_lineFeed,
        lines_append_of_not_mem hs h]

end Text
end TextGrammar
