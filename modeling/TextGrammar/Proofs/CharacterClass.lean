/-
Runs of characters of a class.

`Passes` says that there is nothing but characters of a class between two cursors.  If no further
one stands at the second cursor, the run between them is the longest from the first one.  From
every boundary there is exactly one such run, and it leads to `past`.
-/
import TextGrammar.Proofs.Boundary

namespace TextGrammar
namespace Cursor

/-- No character of the class stands at the cursor: the text ends there, or another character
stands there. -/
def ClearOf (inClass : Char → Bool) (c : Cursor) : Prop :=
  c.peek? = some none ∨ ∃ ch, c.peek? = some (some ch) ∧ inClass ch = false

/-- The text `t` stands between the cursors, and all of it is of the class. -/
structure Passes (inClass : Char → Bool) (c d : Cursor) (t : Text) : Prop where
  reaches : c.Reaches d.location
  slice : c.sliceTo? d = some t
  all : ∀ ch ∈ t, inClass ch = true

/-- The text `t` between the cursors is all there is of the class. -/
structure LongestRun (inClass : Char → Bool) (c d : Cursor) (t : Text) : Prop
    extends Passes inClass c d t where
  clear : d.ClearOf inClass

/-- The place behind all characters of the class that stand at the cursor. -/
def past (inClass : Char → Bool) (c : Cursor) : Cursor :=
  match c.rest? with
  | some s => c.advance (Text.size (s.takeWhile inClass))
  | none => c

variable {inClass : Char → Bool} {c d e : Cursor} {s t u r : Text}

theorem clearOf_iff_of_rest? (h : c.rest? = some r) :
    c.ClearOf inClass ↔ ∀ ch, r.head? = some ch → inClass ch = false := by
  rw [ClearOf, peek?_of_rest? h]
  cases r with
  | nil => simp
  | cons ch r => simp

theorem passes_advance (h : c.rest? = some (t ++ r)) (hall : ∀ ch ∈ t, inClass ch = true) :
    c.Passes inClass (c.advance t.size) t :=
  ⟨(advance_of_rest? h).1, sliceTo?_advance h, hall⟩

theorem Passes.exists_rest? (h : c.Passes inClass d t) (hc : c.OnBoundary) :
    ∃ r, c.rest? = some (t ++ r) ∧ d = c.advance t.size := by
  obtain ⟨u, r, hrest, rfl⟩ := h.reaches.exists_advance hc
  obtain rfl : u = t := Option.some.inj ((sliceTo?_advance hrest).symm.trans h.slice)
  exact ⟨r, hrest, rfl⟩

/-! ## The longest run -/

theorem past_of_rest? (h : c.rest? = some s) :
    c.past inClass = c.advance (Text.size (s.takeWhile inClass)) := by
  simp only [past, h]

theorem longestRun_takeWhile (h : c.rest? = some s) :
    c.LongestRun inClass (c.past inClass) (s.takeWhile inClass) := by
  have hparts : c.rest? = some (s.takeWhile inClass ++ s.dropWhile inClass) := by
    rw [List.takeWhile_append_dropWhile, h]
  have hall : ∀ ch ∈ s.takeWhile inClass, inClass ch = true :=
    List.all_eq_true.mp List.all_takeWhile
  rw [past_of_rest? h]
  refine ⟨passes_advance hparts hall, ?_⟩
  rw [clearOf_iff_of_rest? (rest?_advance hparts)]
  intro ch hch
  have hnot := List.head?_dropWhile_not inClass s
  rwa [hch] at hnot

theorem OnBoundary.exists_longestRun (hc : c.OnBoundary) (inClass : Char → Bool) :
    ∃ t, c.LongestRun inClass (c.past inClass) t := by
  obtain ⟨s, hrest⟩ := hc.exists_rest?
  exact ⟨_, longestRun_takeWhile hrest⟩

/-- There is no other one. -/
theorem LongestRun.eq_past (h : c.LongestRun inClass d t) (hrest : c.rest? = some s) :
    d = c.past inClass ∧ t = s.takeWhile inClass := by
  obtain ⟨r, hparts, rfl⟩ := h.exists_rest? (onBoundary_of_rest? hrest)
  obtain rfl : t ++ r = s := Option.some.inj (hparts.symm.trans hrest)
  have hclear := (clearOf_iff_of_rest? (rest?_advance hparts)).mp h.clear
  have hbehind : r.takeWhile inClass = [] := by
    cases r with
    | nil => rfl
    | cons ch r => exact List.takeWhile_cons_of_neg (Bool.eq_false_iff.mp (hclear ch rfl))
  have hall : (t ++ r).takeWhile inClass = t := by
    rw [List.takeWhile_append_of_pos h.all, hbehind, List.append_nil]
  rw [past_of_rest? hrest, hall]
  exact ⟨rfl, rfl⟩

/-- A run in front of the longest one is part of the longest. -/
theorem Passes.longestRun (h : c.Passes inClass d t) (h' : d.LongestRun inClass e u)
    (hc : c.OnBoundary) : c.LongestRun inClass e (t ++ u) := by
  refine ⟨⟨h.reaches.trans h'.reaches, h.reaches.sliceTo?_trans hc h'.reaches h.slice h'.slice,
    ?_⟩, h'.clear⟩
  intro ch hch
  rcases List.mem_append.mp hch with hch | hch
  · exact h.all ch hch
  · exact h'.all ch hch

theorem Passes.past_eq (h : c.Passes inClass d t) (hc : c.OnBoundary) :
    d.past inClass = c.past inClass := by
  obtain ⟨s, hrest⟩ := hc.exists_rest?
  obtain ⟨u, hrun⟩ := h.reaches.onBoundary.exists_longestRun inClass
  exact ((h.longestRun hrun hc).eq_past hrest).1

theorem past_past (hc : c.OnBoundary) : (c.past inClass).past inClass = c.past inClass := by
  obtain ⟨t, hrun⟩ := hc.exists_longestRun inClass
  exact hrun.past_eq hc

end Cursor
end TextGrammar
