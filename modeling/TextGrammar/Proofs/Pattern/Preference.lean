/-
What is preferred for classes of characters and for texts.

A greedy repetition of a set prefers to go on to the first character outside the set, and a text
has no choice.  So every engine that matches leftmost and first matches the same for these, and
what stands in front of the place does not matter.
-/
import TextGrammar.Engine

namespace TextGrammar

namespace Place

/-! ## Ways through a text -/

theorem passText_append (before : Option Char) (w r : Text) :
    ∃ p, (Place.mk before (w ++ r)).passText w = [p] ∧ p.rest = r := by
  induction w generalizing before with
  | nil => exact ⟨_, rfl, rfl⟩
  | cons c w ih =>
    obtain ⟨p, hp, hrest⟩ := ih (some c)
    refine ⟨p, ?_, hrest⟩
    rw [List.cons_append, passText, passChar, if_pos (beq_self_eq_true c), List.flatMap_cons,
      List.flatMap_nil, List.append_nil]
    exact hp

theorem passText_eq_nil {w t : Text} (h : ¬ w <+: t) (before : Option Char) :
    (Place.mk before t).passText w = [] := by
  induction w generalizing before t with
  | nil => exact absurd List.nil_prefix h
  | cons c w ih =>
    cases t with
    | nil => rfl
    | cons d t =>
      by_cases hd : c = d
      · subst hd
        have hw : ¬ w <+: t := fun hw => h (List.cons_prefix_cons.mpr ⟨rfl, hw⟩)
        rw [passText, passChar, if_pos (beq_self_eq_true c), List.flatMap_cons, ih hw]
        rfl
      · rw [passText, passChar, if_neg (mt beq_iff_eq.mp hd)]
        rfl

/-! ## Rounds of a set -/

/-- What a set leaves over, if it begins there. -/
def pastRun? (f : Char → Bool) (t : Text) : Option Text :=
  if t.head?.any f then some (t.dropWhile f) else none

theorem pastRun?_or (f : Char → Bool) (t : Text) :
    (pastRun? f t).or (some t) = some (t.dropWhile f) := by
  cases t with
  | nil => rfl
  | cons c t =>
    by_cases hc : f c = true
    · simp only [pastRun?, List.head?_cons, Option.any_some, hc, if_true, Option.some_or]
    · simp only [pastRun?, List.head?_cons, Option.any_some, hc, Bool.false_eq_true, if_false,
        Option.none_or, List.dropWhile_cons_of_neg, not_false_eq_true]

/-- The preferred way goes as far as there are characters of the set. -/
theorem head?_rounds_pass (f : Char → Bool) {n : Nat} {t : Text} (hn : t.length < n)
    (before : Option Char) :
    (rounds (passChar f) true n ⟨before, t⟩).head?.map Place.rest = pastRun? f t := by
  induction n generalizing before t with
  | zero => exact absurd hn (Nat.not_lt_zero _)
  | succ n ih =>
    cases t with
    | nil => rfl
    | cons c t =>
      by_cases hc : f c = true
      · have hlt : t.length < (c :: t).length := Nat.lt_succ_self _
        have hpast : pastRun? f (c :: t) = some (t.dropWhile f) := by
          rw [pastRun?, List.head?_cons, Option.any_some, if_pos hc, List.dropWhile_cons_of_pos hc]
        rw [rounds, passChar, if_pos hc, List.flatMap_cons, List.flatMap_nil, List.append_nil,
          if_pos hlt, prefer, if_pos rfl, List.head?_append, Option.map_or,
          ih (Nat.lt_of_succ_lt_succ hn), hpast]
        exact pastRun?_or f t
      · rw [rounds, passChar, if_neg hc, pastRun?, List.head?_cons, Option.any_some, if_neg hc]
        rfl

end Place

namespace Expression

open Place

variable {e : Expression} {before : Option Char} {m r t : Text}

theorem preferred?_eq_some (ht : t = m ++ r)
    (h : (e.ends ⟨before, t⟩).head?.map Place.rest = some r) :
    e.preferred? before t = some m := by
  obtain ⟨p, hp, rfl⟩ := Option.map_eq_some_iff.mp h
  rw [preferred?, hp, ht, Option.map_some, List.length_append, Nat.add_sub_cancel, List.take_left]

theorem preferred?_eq_none (h : (e.ends ⟨before, t⟩).head?.map Place.rest = none) :
    e.preferred? before t = none := by
  rw [preferred?, Option.map_eq_none_iff.mp h, Option.map_none]

theorem head?_ends_run (s : CharSet) (before : Option Char) (t : Text) :
    ((Pattern.run s).ends ⟨before, t⟩).head?.map Place.rest = pastRun? s.contains t := by
  rw [← head?_rounds_pass s.contains (Nat.lt_succ_self t.length) before]
  exact congrArg (fun l : List Place => l.head?.map Place.rest) (List.append_nil _)

theorem head?_ends_anyRun (s : CharSet) (before : Option Char) (t : Text) :
    ((Pattern.anyRun s).ends ⟨before, t⟩).head?.map Place.rest =
      some (t.dropWhile s.contains) := by
  show (Place.rounds (passChar s.contains) true (t.length + 1) (Place.mk before t) ++
    [Place.mk before t]).head?.map Place.rest = _
  rw [List.head?_append, Option.map_or, head?_rounds_pass _ (Nat.lt_succ_self _)]
  exact pastRun?_or s.contains t

theorem preferred?_anyRun (s : CharSet) (before : Option Char) (t : Text) :
    (Pattern.anyRun s).preferred? before t = some (t.takeWhile s.contains) :=
  preferred?_eq_some List.takeWhile_append_dropWhile.symm (head?_ends_anyRun s before t)

/-- A character of one set, and then any number of another. -/
def leading (first s : CharSet) : Text → Option Text
  | [] => none
  | c :: t => if first.contains c then some (c :: t.takeWhile s.contains) else none

theorem preferred?_run (s : CharSet) (before : Option Char) (t : Text) :
    (Pattern.run s).preferred? before t = leading s s t := by
  have hends := head?_ends_run s before t
  cases t with
  | nil => exact preferred?_eq_none hends
  | cons c t =>
    rw [pastRun?, List.head?_cons, Option.any_some] at hends
    by_cases hc : s.contains c = true
    · rw [if_pos hc, List.dropWhile_cons_of_pos hc] at hends
      rw [leading, if_pos hc]
      refine preferred?_eq_some ?_ hends
      rw [List.cons_append, List.takeWhile_append_dropWhile]
    · rw [if_neg hc] at hends
      rw [leading, if_neg hc]
      exact preferred?_eq_none hends

theorem preferred?_seq_anyRun (first s : CharSet) (before : Option Char) (t : Text) :
    (Expression.seq (.set first) (Pattern.anyRun s)).preferred? before t = leading first s t := by
  cases t with
  | nil => rfl
  | cons c t =>
    by_cases hc : first.contains c = true
    · have hends : (seq (set first) (Pattern.anyRun s)).ends ⟨before, c :: t⟩ =
          (Pattern.anyRun s).ends ⟨some c, t⟩ := by
        rw [ends, ends, passChar, if_pos hc, List.flatMap_cons, List.flatMap_nil, List.append_nil]
      have hrest := head?_ends_anyRun s (some c) t
      rw [← hends] at hrest
      rw [leading, if_pos hc]
      refine preferred?_eq_some ?_ hrest
      rw [List.cons_append, List.takeWhile_append_dropWhile]
    · rw [leading, if_neg hc, preferred?, ends, ends, passChar, if_neg hc]
      rfl

/-- A text in front of other alternatives. -/
theorem preferred?_alt_literal (w : Text) (e : Expression) (before : Option Char) (r : Text) :
    (alt (literal w) e).preferred? before (w ++ r) = some w := by
  obtain ⟨p, hp, hrest⟩ := passText_append before w r
  refine preferred?_eq_some rfl ?_
  rw [ends, ends, hp, List.singleton_append, List.head?_cons, Option.map_some, hrest]

theorem preferred?_alt_literal_of_not_prefix {w : Text} (e : Expression) (before : Option Char)
    (h : ¬ w <+: t) : (alt (literal w) e).preferred? before t = e.preferred? before t := by
  rw [preferred?, ends, ends, passText_eq_nil h, List.nil_append]
  rfl

theorem preferred?_literal (w : Text) (before : Option Char) (r : Text) :
    (literal w).preferred? before (w ++ r) = some w := by
  obtain ⟨p, hp, hrest⟩ := passText_append before w r
  refine preferred?_eq_some rfl ?_
  rw [ends, hp, List.head?_cons, Option.map_some, hrest]

theorem preferred?_literal_of_not_prefix {w : Text} (before : Option Char) (h : ¬ w <+: t) :
    (literal w).preferred? before t = none := by
  rw [preferred?, ends, passText_eq_nil h]
  rfl

end Expression

/-! ## The built-in classes -/

namespace Pattern

open Expression

/-- The pattern matches a character of one set, and then as many of another as there are. -/
def MatchesLeading (x : Pattern) (first s : CharSet) : Prop :=
  ∀ before t, x.matched? before t = leading first s t

theorem MatchesLeading.ignoresFront {x : Pattern} {first s : CharSet}
    (h : x.MatchesLeading first s) (before before' : Option Char) (t : Text) :
    x.matched? before t = x.matched? before' t :=
  (h before t).trans (h before' t).symm

/-- The pattern matches as many characters of a set as there are. -/
def MatchesAll (x : Pattern) (s : CharSet) : Prop :=
  ∀ before t, x.matched? before t = some (t.takeWhile s.contains)

end Pattern

namespace Engine

open Expression Pattern

variable {E : Engine}

theorem matchesLeading_of_run {l : BuiltIn} {s : CharSet} (hl : l.expression = run s)
    (hE : E.LeftmostFirst l.source) : (E.leaf l).MatchesLeading s s := by
  intro before t
  rw [hE.matched?_leaf, hl]
  exact preferred?_run s before t

theorem matchesLeading_identifier (hE : E.LeftmostFirst "[a-zA-Z_][a-zA-Z0-9_]*") :
    (E.leaf .identifier).MatchesLeading initialSet .asciiWord := fun before t =>
  (LeftmostFirst.matched?_leaf hE before t).trans (preferred?_seq_anyRun initialSet _ before t)

theorem matchesAll_whitespace (hE : E.LeftmostFirst "\\s*") :
    (E.leaf .whitespace).MatchesAll .blank := fun before t =>
  (LeftmostFirst.matched?_leaf hE before t).trans (preferred?_anyRun .blank before t)

theorem leavesIgnoreFront (hE : ∀ l : BuiltIn, E.LeftmostFirst l.source) :
    E.LeavesIgnoreFront := by
  intro l before before' t
  cases l with
  | digits => exact (matchesLeading_of_run rfl (hE .digits)).ignoresFront before before' t
  | letters => exact (matchesLeading_of_run rfl (hE .letters)).ignoresFront before before' t
  | alphanumeric =>
    exact (matchesLeading_of_run rfl (hE .alphanumeric)).ignoresFront before before' t
  | identifier => exact (matchesLeading_identifier (hE .identifier)).ignoresFront before before' t
  | whitespace =>
    have hall := matchesAll_whitespace (hE .whitespace)
    exact (hall before t).trans (hall before' t).symm

end Engine
end TextGrammar
