/-
Recognisers that realise parsing expressions.

A recogniser realises an expression if, from every boundary of a text, it ends quietly just
where the expression has a derivation.  Each combinator of recognisers realises the matching
combination of expressions.  The only one for which this needs an argument is repetition: a
round that consumes nothing is recorded, and there the repetition has no derivation.
-/
import Mathlib.Data.List.Forall2
import TextGrammar.Proofs.Pattern.Preference
import TextGrammar.Proofs.Peg.Derivation
import TextGrammar.Proofs.Quiet

namespace TextGrammar
namespace Recogniser

open Run Peg

variable {α β : Type} {R : Type} {G : R → Peg R} {t : Text} {n : Nat} {a b e : Peg R}
  {p : Recogniser α} {q : Recogniser β} {c : Cursor} {o : Option Nat}

def Realises (G : R → Peg R) (t : Text) (n : Nat) (e : Peg R) (p : Recogniser α) : Prop :=
  ∀ c : Cursor, c.OnBoundary → c.text = t → ∀ o,
    DerivesWithin G t n e c.offset o ↔ (p c).EndsQuietly o

/-- Recognisers that end in the same way realise the same. -/
theorem Realises.of_ends_iff (hp : Realises G t n e p)
    (h : ∀ c : Cursor, c.OnBoundary → ∀ o, (q c).EndsQuietly o ↔ (p c).EndsQuietly o) :
    Realises G t n e q :=
  fun c hc ht o => (hp c hc ht o).trans (h c hc o).symm

/-- What follows a success of `p` is derived from where `p` ends. -/
theorem Realises.exists_iff (hp : Realises G t n e p) (hforward : p.Forward)
    (hc : c.OnBoundary) (ht : c.text = t) {A : Nat → Prop} {f : α → Cursor → Run β}
    (hf : ∀ v next, (p c).YieldsQuietly v next → c.Reaches next.location →
      (A next.offset ↔ (f v next).EndsQuietly o)) :
    (∃ j, DerivesWithin G t n e c.offset (some j) ∧ A j) ↔
      ∃ v next, (p c).YieldsQuietly v next ∧ (f v next).EndsQuietly o := by
  constructor
  · intro h
    obtain ⟨j, he, hA⟩ := h
    obtain ⟨v, next, hy, rfl⟩ := endsQuietly_some_iff.mp ((hp c hc ht _).mp he)
    exact ⟨v, next, hy, (hf v next hy (hforward c v next hc hy.yields)).mp hA⟩
  · intro h
    obtain ⟨v, next, hy, hend⟩ := h
    have he := (hp c hc ht _).mpr (endsQuietly_some_iff.mpr ⟨v, next, hy, rfl⟩)
    exact ⟨next.offset, he, (hf v next hy (hforward c v next hc hy.yields)).mpr hend⟩

/-! ## Leaves -/

theorem realises_succeed (v : α) :
    Realises G t n empty fun c => Run.success v c := by
  intro c _ _ o
  rw [within_empty_iff, endsQuietly_success_iff]

theorem Realises.notAhead (hp : Realises G t n e p) (hforward : p.Forward) (cause : Cause) :
    Realises G t n (notAhead e) fun c =>
      (p c).resolve (fun _ _ => (failAt c cause : Run Unit)) fun _ => Run.success () c := by
  intro c hc ht o
  rw [within_notAhead_iff, endsQuietly_resolve_const_iff]
  refine or_congr (hp.exists_iff hforward hc ht fun _ _ _ _ => endsQuietly_failure_iff.symm) ?_
  rw [hp c hc ht, endsQuietly_success_iff]

theorem realises_fail (cause : Cause) :
    Realises G t n Peg.fail fun c => (failAt c cause : Run α) := by
  intro c _ _ o
  rw [Peg.fail, within_notAhead_iff]
  simp only [failAt, endsQuietly_failure_iff, within_empty_iff, Option.some.injEq,
    exists_eq_left, reduceCtorEq, false_and, or_false]

/-- The parts of a text on the two sides of a boundary decide what a terminal derives. -/
theorem within_terminal_at_iff {x : Terminal} {l r : Text} (htext : t = l ++ r) :
    DerivesWithin G t n (terminal x) l.size o ↔
      o = (x.match? l.getLast? r).map fun m => l.size + m.size := by
  constructor
  · intro h
    obtain ⟨l', r', htext', hsize, ho⟩ := within_terminal_iff.mp h
    have hparts := Cursor.surroundings?_of_text_eq (c := ⟨t, l.size⟩) htext rfl
    rw [Cursor.surroundings?_of_text_eq htext' hsize] at hparts
    obtain ⟨hlast, hr⟩ := Prod.mk.inj (Option.some.inj hparts)
    rw [ho, hsize, hlast, hr]
  · intro ho
    rw [ho]
    exact .terminal htext

theorem realises_terminal {x : Terminal}
    (h : ∀ (c : Cursor) (l r : Text), c.text = l ++ r → c.offset = l.size → ∀ o,
      (p c).EndsQuietly o ↔ o = (x.match? l.getLast? r).map fun m => c.offset + m.size) :
    Realises G t n (terminal x) p := by
  intro c hc ht o
  obtain ⟨l, r, htext, hoff⟩ := hc
  subst ht
  rw [h c l r htext hoff, hoff]
  exact within_terminal_at_iff htext

theorem realises_literal (s : Text) : Realises G t n (terminal (.literal s)) (literal s) := by
  refine realises_terminal fun c l r htext hoff o => ?_
  have hrest : c.rest? = some r := Cursor.rest?_eq_some_iff.mpr ⟨l, htext, hoff⟩
  rw [literal, hrest, reading, Terminal.match?]
  by_cases hpre : s.isPrefixOf r = true
  · obtain ⟨r', rfl⟩ := List.isPrefixOf_iff_prefix.mp hpre
    rw [if_pos hpre, if_pos hpre, endsQuietly_success_iff,
      (Cursor.advance_of_rest? hrest).2.1, Option.map_some]
  · rw [if_neg hpre, if_neg hpre]
    exact endsQuietly_failure_iff

theorem realises_pattern (x : Pattern) : Realises G t n (terminal (.pattern x)) (pattern x) := by
  refine realises_terminal fun c l r htext hoff o => ?_
  have hrest : c.rest? = some r := Cursor.rest?_eq_some_iff.mpr ⟨l, htext, hoff⟩
  rw [pattern, Cursor.surroundings?_of_text_eq htext hoff, Terminal.match?]
  dsimp only [reading]
  cases hm : x.matched? l.getLast? r with
  | none => exact endsQuietly_failure_iff
  | some m =>
    obtain ⟨r', rfl⟩ := Pattern.matched?_prefix hm
    rw [endsQuietly_success_iff, (Cursor.advance_of_rest? hrest).2.1, Option.map_some]

theorem realises_endOfInput : Realises G t n Peg.endOfInput endOfInput := by
  intro c hc ht o
  obtain ⟨l, r, htext, hoff⟩ := hc
  subst ht
  have hrest : c.rest? = some r := Cursor.rest?_eq_some_iff.mpr ⟨l, htext, hoff⟩
  rw [Peg.endOfInput, within_notAhead_iff, hoff]
  simp only [within_terminal_at_iff htext, Terminal.match?]
  rw [endOfInput]
  cases r with
  | nil =>
    rw [if_pos (Cursor.rest?_eq_some_nil_iff.mp hrest), endsQuietly_success_iff]
    simp [hoff]
  | cons ch r =>
    have hend : ¬ c.atEnd = true := by
      rw [← Cursor.rest?_eq_some_nil_iff, hrest]
      simp
    rw [if_neg hend, failAt, endsQuietly_failure_iff]
    simp

/-! ## One part after the other, or in place of the other -/

theorem Realises.andThen {f : α → Recogniser β} (hp : Realises G t n a p)
    (hforward : p.Forward) (hf : ∀ v, Realises G t n b (f v)) :
    Realises G t n (seq a b) fun c => (p c).andThen fun v next => f v next := by
  intro c hc ht o
  rw [within_seq_iff, endsQuietly_andThen_iff, hp c hc ht none]
  refine or_congr_left (hp.exists_iff hforward hc ht fun v next _ hreach => ?_)
  exact hf v next hreach.onBoundary (hreach.text_eq.trans ht) o

theorem Realises.followedBy (hp : Realises G t n a p) (hforward : p.Forward)
    (hq : Realises G t n b q) :
    Realises G t n (seq a b) fun c =>
      (p c).andThen fun v next => (q next).andThen fun _ last => Run.success v last :=
  hp.andThen hforward fun _ => hq.of_ends_iff fun _ _ _ => endsQuietly_andThen_success_iff

/-- The second part gets the place where the first one failed. -/
theorem Realises.orElse {q : Recogniser β} {f : α → β} (hp : Realises G t n a p)
    (hforward : p.Forward) (hq : Realises G t n b q) :
    Realises G t n (Peg.choice a b) fun c =>
      (p c).resolve (fun v next => Run.success (f v) next) fun _ => q c := by
  intro c hc ht o
  rw [within_choice_iff, endsQuietly_resolve_const_iff, hp c hc ht none, hq c hc ht o]
  exact or_congr_left (hp.exists_iff hforward hc ht fun _ _ _ _ => endsQuietly_success_iff.symm)

theorem Realises.optional (hp : Realises G t n e p) (hforward : p.Forward) :
    Realises G t n (Peg.optional e) (optional p) :=
  hp.orElse hforward (realises_succeed none)

theorem Realises.lookAhead (hp : Realises G t n e p) (hforward : p.Forward) :
    Realises G t n (Peg.lookAhead e) fun c => (p c).andThen fun v _ => Run.success v c := by
  intro c hc ht o
  rw [within_lookAhead_iff, endsQuietly_andThen_iff, hp c hc ht none]
  exact or_congr_left (hp.exists_iff hforward hc ht fun _ _ _ _ => endsQuietly_success_iff.symm)

/-! ## Lists of parts -/

theorem forall₂_ofFn {β γ : Type*} {P : β → γ → Prop} {m : Nat} {f : Fin m → β} {g : Fin m → γ}
    (h : ∀ i, P (f i) (g i)) : List.Forall₂ P (List.ofFn f) (List.ofFn g) := by
  refine List.forall₂_iff_get.mpr ⟨?_, fun i hi _ => ?_⟩
  · rw [List.length_ofFn, List.length_ofFn]
  · simpa using h ⟨i, by simpa using hi⟩

theorem realises_choices {es : List (Peg R)} {ps : List (Recogniser α)}
    (h : List.Forall₂ (fun e p => Realises G t n e p ∧ p.Forward) es ps) :
    Realises G t n (choices es) (choice ps) := by
  induction h with
  | nil => exact realises_fail .noAlternatives
  | cons hp htail ih =>
    cases htail with
    | nil => exact hp.1
    | cons => exact hp.1.orElse hp.2 ih

theorem realises_seqs {es : List (Peg R)} {ps : List (Recogniser α)}
    (h : List.Forall₂ (fun e p => Realises G t n e p ∧ p.Forward) es ps) :
    Realises G t n (seqs es) (sequence ps) := by
  induction h with
  | nil => exact realises_succeed []
  | cons hp htail ih =>
    exact hp.1.andThen hp.2 fun _ => ih.of_ends_iff fun _ _ _ => endsQuietly_andThen_success_iff

/-! ## Repetition -/

/-- What follows an item ends as the repetition from there on.  An item that consumed
nothing has no repetition behind it, and the round that it ends is not quiet. -/
theorem Realises.round {ended : Nat → Record} (hended : ∀ i, (ended i).isZeroWidth = true)
    (hp : Realises G t n e p) (hc : c.OnBoundary) (ht : c.text = t) {fuel : Nat} {v : α}
    {next : Cursor} (hy : (p c).YieldsQuietly v next) (hreach : c.Reaches next.location)
    (hfuel : c.remaining ≤ fuel)
    (hloop : next.remaining < fuel → ∀ o,
      DerivesWithin G t n (star e) next.offset o ↔ (loop ended p fuel next).EndsQuietly o) :
    DerivesWithin G t n (star e) next.offset o ↔ (round ended p fuel c v next).EndsQuietly o := by
  rw [Recogniser.round]
  by_cases hzero : next.offset = c.offset
  · have hend : (p c).EndsQuietly (some c.offset) := endsQuietly_some_iff.mpr ⟨v, next, hy, hzero⟩
    have hnot : ¬ DerivesWithin G t n (star e) c.offset o :=
      not_within_star_of_zero ((hp c hc ht _).mpr hend) fun o' ho' =>
        ((hp c hc ht o').mp ho').unique hend
    rw [if_pos hzero, hzero, endsQuietly_after_iff, quiet_singleton_iff, hended]
    simp only [hnot, Bool.true_eq_false, false_and]
  · have hle : c.offset ≤ next.offset := hreach.le
    have hrem := hreach.remaining_lt (by omega)
    rw [if_neg hzero, endsQuietly_andThen_success_iff]
    exact hloop (by omega) o

theorem Realises.loop {ended : Nat → Record} (hended : ∀ i, (ended i).isZeroWidth = true)
    (hp : Realises G t n e p) (hforward : p.Forward) (fuel : Nat) (hc : c.OnBoundary)
    (ht : c.text = t) (hfuel : c.remaining < fuel) (o : Option Nat) :
    DerivesWithin G t n (star e) c.offset o ↔ (loop ended p fuel c).EndsQuietly o := by
  induction fuel generalizing c o with
  | zero => exact absurd hfuel (Nat.not_lt_zero _)
  | succ fuel ih =>
    rw [loop_succ, within_star_iff, endsQuietly_resolve_const_iff, hp c hc ht none,
      endsQuietly_success_iff]
    refine or_congr_left (hp.exists_iff hforward hc ht fun v next hy hreach => ?_)
    exact hp.round hended hc ht hy hreach (Nat.le_of_lt_succ hfuel) fun hlt o' =>
      ih hreach.onBoundary (hreach.text_eq.trans ht) hlt o'

theorem Realises.many (hp : Realises G t n e p) (hforward : p.Forward) :
    Realises G t n (star e) (many p) := by
  intro c hc ht o
  rw [many_eq_loop]
  exact hp.loop (fun _ => rfl) hforward _ hc ht (Nat.lt_succ_self _) o

theorem Realises.many1 (hp : Realises G t n e p) (hforward : p.Forward) :
    Realises G t n (plus e) (many1 p) := by
  intro c hc ht o
  rw [many1_eq_resolve, plus, within_seq_iff, endsQuietly_resolve_const_iff, hp c hc ht none,
    failAt, endsQuietly_failure_iff]
  refine or_congr_left (hp.exists_iff hforward hc ht fun v next hy hreach => ?_)
  exact hp.round (fun _ => rfl) hc ht hy hreach (Nat.le_refl _) fun hlt o' =>
    hp.loop (fun _ => rfl) hforward _ hreach.onBoundary (hreach.text_eq.trans ht) hlt o'

theorem Realises.sepBy {q : Recogniser β} (hp : Realises G t n a p) (hforward : p.Forward)
    (hq : Realises G t n b q) (hforward' : q.Forward) :
    Realises G t n (Peg.optional (seq a (star (seq b a)))) (sepBy p q) := by
  have hitem : Realises G t n (seq b a) (separated p q) := hq.andThen hforward' fun _ => hp
  have hforwardItem : (separated p q).Forward := hforward'.andThen fun _ => hforward
  intro c hc ht o
  rw [Recogniser.sepBy, within_optional_seq_star_iff, endsQuietly_resolve_const_iff,
    hp c hc ht none, endsQuietly_success_iff]
  refine or_congr_left (hp.exists_iff hforward hc ht fun v next _ hreach => ?_)
  rw [endsQuietly_andThen_success_iff, moreItems_eq_loop]
  exact hitem.loop (fun _ => rfl) hforwardItem _ hreach.onBoundary (hreach.text_eq.trans ht)
    (Nat.lt_succ_self _) o

/-! ## White space -/

variable {E : Engine}

/-- White space may be empty, so it always matches. -/
theorem pattern_whitespace_eq (hE : E.LeftmostFirst "\\s*") (hc : c.OnBoundary) :
    ∃ s : Text, pattern (E.leaf .whitespace) c = Run.success s (c.advance s.size) := by
  obtain ⟨l, r, htext, hoff⟩ := hc
  refine ⟨r.takeWhile CharSet.blank.contains, ?_⟩
  simp only [pattern, Cursor.surroundings?_of_text_eq htext hoff, reading,
    Engine.matchesAll_whitespace hE _ r]

theorem realises_blanks (hE : E.LeftmostFirst "\\s*") :
    Realises G t n (whitespace E) (blanks (E.leaf .whitespace)) := by
  refine (realises_pattern (E.leaf .whitespace)).of_ends_iff fun c hc o => ?_
  obtain ⟨s, hs⟩ := pattern_whitespace_eq hE hc
  rw [blanks, hs, resolve_success, endsQuietly_success_iff, endsQuietly_success_iff]

theorem Realises.trim (hE : E.LeftmostFirst "\\s*") (hp : Realises G t n e p)
    (hforward : p.Forward) :
    Realises G t n (seq (whitespace E) (seq e (whitespace E))) (trim (E.leaf .whitespace) p) :=
  (realises_blanks hE).andThen (forward_blanks _) fun _ =>
    hp.followedBy hforward (realises_blanks hE)

end Recogniser
end TextGrammar
