/-
Ordered choice.

A choice from a list tries its parsers one after the other at the same place, and a choice
from two is the same as `orElse`.  As `orElse` is associative, a list may be cut into two
choices or folded from either side, and a choice within a choice may give way to its own
parsers.  None of the lists may be empty there, since a choice from nothing fails by itself.

What a choice returns is what the first parser returns that succeeds, or the last one if none
does, behind the records of those that have failed in front of it.
-/
import TextGrammar.Proofs.Log
import TextGrammar.Proofs.Nested
import TextGrammar.Proofs.Taking

namespace TextGrammar

variable {α : Type}

namespace Recogniser

open Run

variable {p q r : Recogniser α} {ps qs rs : List (Recogniser α)} {c next : Cursor} {v : α}
  {f : Failure} {log : List Record}

/-- As `p`, or as `q` at the same place if `p` fails. -/
def orElse (p q : Recogniser α) : Recogniser α := fun c => (p c).resolve success fun _ => q c

theorem orElse_of_success (h : p c = .ok (.success v next, log)) (q : Recogniser α) :
    orElse p q c = .ok (.success v next, log) := by
  rw [orElse, resolve_of_success h, after_success]

theorem orElse_of_failure (h : p c = .ok (.failure f, log)) (q : Recogniser α) :
    orElse p q c = (q c).after log := by
  rw [orElse, resolve_of_failure h]

theorem orElse_assoc (p q r : Recogniser α) : orElse (orElse p q) r = orElse p (orElse q r) := by
  funext c
  show ((p c).resolve success fun _ => q c).resolve success (fun _ => r c) = _
  rw [resolve_resolve]
  simp only [resolve_success]
  rfl

/-! ## Choices and `orElse` -/

theorem choice_singleton (p : Recogniser α) : choice [p] = p := rfl

theorem choice_cons (p : Recogniser α) (h : ps ≠ []) :
    choice (p :: ps) = orElse p (choice ps) := by
  cases ps with
  | nil => exact absurd rfl h
  | cons q ps => rfl

theorem choice_append (hps : ps ≠ []) (hqs : qs ≠ []) :
    choice (ps ++ qs) = orElse (choice ps) (choice qs) := by
  induction ps with
  | nil => exact absurd rfl hps
  | cons p ps ih =>
    cases ps with
    | nil => exact choice_cons p hqs
    | cons p' ps =>
      have hne : p' :: ps ≠ [] := List.cons_ne_nil p' ps
      have hne' : (p' :: ps) ++ qs ≠ [] := List.cons_ne_nil p' (ps ++ qs)
      rw [List.cons_append, choice_cons p hne', choice_cons p hne, ih hne, orElse_assoc]

/-- Two parsers at the front may be one. -/
theorem choice_cons_cons (p q : Recogniser α) (ps : List (Recogniser α)) :
    choice (p :: q :: ps) = choice (orElse p q :: ps) := by
  cases ps with
  | nil => rfl
  | cons q' ps =>
    have hne : q' :: ps ≠ [] := List.cons_ne_nil q' ps
    rw [choice_cons p (List.cons_ne_nil q _), choice_cons q hne, choice_cons _ hne, orElse_assoc]

theorem choice_eq_foldl (p : Recogniser α) (ps : List (Recogniser α)) :
    choice (p :: ps) = ps.foldl orElse p := by
  induction ps generalizing p with
  | nil => rfl
  | cons q ps ih => rw [choice_cons_cons, ih, List.foldl_cons]

theorem choice_eq_foldr (ps : List (Recogniser α)) (p : Recogniser α) :
    choice (ps ++ [p]) = ps.foldr orElse p := by
  induction ps with
  | nil => rfl
  | cons q ps ih =>
    have hne : ps ++ [p] ≠ [] := List.append_ne_nil_of_right_ne_nil ps (List.cons_ne_nil p [])
    rw [List.cons_append, choice_cons q hne, ih, List.foldr_cons]

/-- A choice at the front of a list gives way to its own parsers. -/
theorem choice_choice_cons (hqs : qs ≠ []) (rs : List (Recogniser α)) :
    choice (choice qs :: rs) = choice (qs ++ rs) := by
  cases rs with
  | nil => rw [List.append_nil, choice_singleton]
  | cons r rs =>
    have hne : r :: rs ≠ [] := List.cons_ne_nil r rs
    rw [choice_cons _ hne, choice_append hqs hne]

theorem choice_splice (ps : List (Recogniser α)) (hqs : qs ≠ []) (rs : List (Recogniser α)) :
    choice (ps ++ choice qs :: rs) = choice (ps ++ qs ++ rs) := by
  have hback : choice (choice qs :: rs) = choice (qs ++ rs) := choice_choice_cons hqs rs
  by_cases hps : ps = []
  · rw [hps, List.nil_append, List.nil_append, hback]
  · have hne : qs ++ rs ≠ [] := List.append_ne_nil_of_left_ne_nil hqs rs
    rw [List.append_assoc, choice_append hps (List.cons_ne_nil _ rs), hback,
      ← choice_append hps hne]

end Recogniser

namespace Parser

open Recogniser (choice_append choice_eq_foldl choice_eq_foldr choice_splice)

variable {S : Signature} {g : Grammar S} {depth : Nat} {c : Cursor} {p : Parser S α}
  {ps front back : List (Parser S α)} {o : Outcome α} {log l : List Record}

theorem parseWithin_choose (g : Grammar S) (depth : Nat) (ps : List (Parser S α)) :
    parseWithin g depth (choose ps) = Recogniser.choice (ps.map (parseWithin g depth)) := by
  cases depth <;> exact denote_choose ps

theorem parseWithin_orElse (g : Grammar S) (depth : Nat) (p q : Parser S α) :
    parseWithin g depth (orElse p q) =
      Recogniser.orElse (parseWithin g depth p) (parseWithin g depth q) := by
  cases depth <;> rfl

theorem parseWithin_foldl_orElse (g : Grammar S) (depth : Nat) (p : Parser S α)
    (ps : List (Parser S α)) :
    parseWithin g depth (ps.foldl orElse p) =
      (ps.map (parseWithin g depth)).foldl Recogniser.orElse (parseWithin g depth p) := by
  rw [List.foldl_map]
  exact (List.foldl_hom (parseWithin g depth) fun p q => (parseWithin_orElse g depth p q).symm).symm

theorem parseWithin_foldr_orElse (g : Grammar S) (depth : Nat) (ps : List (Parser S α))
    (p : Parser S α) :
    parseWithin g depth (ps.foldr orElse p) =
      (ps.map (parseWithin g depth)).foldr Recogniser.orElse (parseWithin g depth p) := by
  rw [List.foldr_map]
  exact (List.foldr_hom (parseWithin g depth) fun p q => (parseWithin_orElse g depth p q).symm).symm

/-! ## What a choice returns -/

/-- The parsers fail at the cursor, with these records one after the other. -/
inductive AllFail (g : Grammar S) (depth : Nat) (c : Cursor) :
    List (Parser S α) → List Record → Prop where
  | nil : AllFail g depth c [] []
  | cons {p : Parser S α} {f : Failure} {l m : List Record} {ps : List (Parser S α)} :
    parseWithin g depth p c = .ok (.failure f, l) → AllFail g depth c ps m →
    AllFail g depth c (p :: ps) (l ++ m)

theorem parseWithin_choose_cons (p : Parser S α) (h : ps ≠ []) :
    parseWithin g depth (choose (p :: ps)) =
      Recogniser.orElse (parseWithin g depth p) (parseWithin g depth (choose ps)) := by
  have hne : ps.map (parseWithin g depth) ≠ [] := fun hnil => h (List.map_eq_nil_iff.mp hnil)
  rw [parseWithin_choose, parseWithin_choose, List.map_cons, Recogniser.choice_cons _ hne]

theorem parseWithin_choose_singleton (p : Parser S α) :
    parseWithin g depth (choose [p]) = parseWithin g depth p :=
  parseWithin_choose g depth [p]

theorem parseWithin_choose_pair (p q : Parser S α) :
    parseWithin g depth (choose [p, q]) = parseWithin g depth (orElse p q) := by
  rw [parseWithin_choose_cons p (List.cons_ne_nil q []), parseWithin_choose_singleton,
    parseWithin_orElse]

/-- Parsers that fail leave the choice to those behind them. -/
theorem AllFail.choose_append (h : AllFail g depth c front l) (hback : back ≠ []) :
    parseWithin g depth (choose (front ++ back)) c =
      (parseWithin g depth (choose back) c).after l := by
  induction h with
  | nil => exact (Run.after_nil _).symm
  | @cons p f l m ps hp _ ih =>
    have hne : ps ++ back ≠ [] := List.append_ne_nil_of_right_ne_nil ps hback
    rw [List.cons_append, parseWithin_choose_cons p hne, Recogniser.orElse_of_failure hp, ih,
      Run.after_after]

/-- A parser that succeeds, or is the last one, settles the choice. -/
theorem parseWithin_choose_of_settled (hp : parseWithin g depth p c = .ok (o, l))
    (hlast : back = [] ∨ ∃ v next, o = .success v next) :
    parseWithin g depth (choose (p :: back)) c = .ok (o, l) := by
  cases back with
  | nil => rw [parseWithin_choose_singleton, hp]
  | cons q back =>
    obtain hnil | ⟨v, next, rfl⟩ := hlast
    · exact absurd hnil (List.cons_ne_nil q back)
    · rw [parseWithin_choose_cons p (List.cons_ne_nil q back), Recogniser.orElse_of_success hp]

/-- A choice that returns has come to a parser that settles it. -/
theorem exists_settled (hps : ps ≠ []) (h : parseWithin g depth (choose ps) c = .ok (o, log)) :
    ∃ front p back l m, ps = front ++ p :: back ∧ AllFail g depth c front l ∧
      parseWithin g depth p c = .ok (o, m) ∧ log = l ++ m ∧
      (back = [] ∨ ∃ v next, o = .success v next) := by
  induction ps generalizing log with
  | nil => exact absurd rfl hps
  | cons p ps ih =>
    by_cases hnil : ps = []
    · subst hnil
      rw [parseWithin_choose_singleton] at h
      exact ⟨[], p, [], [], log, rfl, .nil, h, rfl, .inl rfl⟩
    · -- The first one has settled the choice by a success, or left it to the others.
      rw [parseWithin_choose_cons p hnil] at h
      obtain ⟨v, next, l, m, hp, hend, rfl⟩ | ⟨e, l, m, hp, hrest, rfl⟩ :=
        Run.resolve_eq_ok_iff.mp h
      · cases hend
        refine ⟨[], p, ps, [], l, rfl, .nil, hp, ?_, .inr ⟨v, next, rfl⟩⟩
        rw [List.append_nil, List.nil_append]
      · obtain ⟨front, q, back, l', m', rfl, hfail, hq, rfl, hlast⟩ := ih hnil hrest
        refine ⟨p :: front, q, back, l ++ l', m', rfl, .cons hp hfail, hq, ?_, hlast⟩
        rw [List.append_assoc]

theorem parseWithin_choose_eq_ok_iff :
    parseWithin g depth (choose ps) c = .ok (o, log) ↔
      (ps = [] ∧ o = .failure ⟨.noAlternatives, c.location⟩ ∧ log = []) ∨
      ∃ front p back l m, ps = front ++ p :: back ∧ AllFail g depth c front l ∧
        parseWithin g depth p c = .ok (o, m) ∧ log = l ++ m ∧
        (back = [] ∨ ∃ v next, o = .success v next) := by
  constructor
  · intro h
    by_cases hps : ps = []
    · subst hps
      rw [parseWithin_choose] at h
      cases h
      exact .inl ⟨rfl, rfl, rfl⟩
    · exact .inr (exists_settled hps h)
  · intro h
    obtain ⟨rfl, rfl, rfl⟩ | ⟨front, p, back, l, m, rfl, hfail, hp, rfl, hlast⟩ := h
    · rw [parseWithin_choose]
      rfl
    · rw [hfail.choose_append (List.cons_ne_nil p back), parseWithin_choose_of_settled hp hlast]
      rfl

/-- A choice from one parser is the parser.  A choice from two lists is `orElse` of the choices
from each, so a choice is `orElse` folded over its list from the left or from the right, and a
choice within a choice may be replaced by its parsers; all this with the same outcome and the
same records, and also where parsing does not return.  A choice returns what the first parser
returns that succeeds, whatever stands behind it, or else what the last one returns, wherever
the others have failed; and from no parsers it fails where it stands. -/
theorem choose_agrees_with_orElse (g : Grammar S) (depth : Nat) :
    (∀ p : Parser S α, parseWithin g depth (choose [p]) = parseWithin g depth p) ∧
    (∀ ps qs : List (Parser S α), ps ≠ [] → qs ≠ [] →
      parseWithin g depth (choose (ps ++ qs)) =
        parseWithin g depth (orElse (choose ps) (choose qs))) ∧
    (∀ (p : Parser S α) (ps : List (Parser S α)),
      parseWithin g depth (choose (p :: ps)) = parseWithin g depth (ps.foldl orElse p)) ∧
    (∀ (ps : List (Parser S α)) (p : Parser S α),
      parseWithin g depth (choose (ps ++ [p])) = parseWithin g depth (ps.foldr orElse p)) ∧
    (∀ ps qs rs : List (Parser S α), qs ≠ [] →
      parseWithin g depth (choose (ps ++ choose qs :: rs)) =
        parseWithin g depth (choose (ps ++ qs ++ rs))) ∧
    (∀ (ps : List (Parser S α)) (c : Cursor) (o : Outcome α) (log : List Record),
      parseWithin g depth (choose ps) c = .ok (o, log) ↔
        (ps = [] ∧ o = .failure ⟨.noAlternatives, c.location⟩ ∧ log = []) ∨
        ∃ front p back l m, ps = front ++ p :: back ∧ AllFail g depth c front l ∧
          parseWithin g depth p c = .ok (o, m) ∧ log = l ++ m ∧
          (back = [] ∨ ∃ v next, o = .success v next)) := by
  have hmap {ps : List (Parser S α)} (h : ps ≠ []) : ps.map (parseWithin g depth) ≠ [] :=
    fun hnil => h (List.map_eq_nil_iff.mp hnil)
  refine ⟨parseWithin_choose_singleton, ?_, ?_, ?_, ?_, ?_⟩
  · intro ps qs hps hqs
    rw [parseWithin_orElse, parseWithin_choose, parseWithin_choose, parseWithin_choose,
      List.map_append, choice_append (hmap hps) (hmap hqs)]
  · intro p ps
    rw [parseWithin_choose, parseWithin_foldl_orElse, List.map_cons, choice_eq_foldl]
  · intro ps p
    rw [parseWithin_choose, parseWithin_foldr_orElse, List.map_append, List.map_singleton,
      choice_eq_foldr]
  · intro ps qs rs hqs
    rw [parseWithin_choose, parseWithin_choose, List.map_append, List.map_cons,
      parseWithin_choose, choice_splice _ (hmap hqs), List.map_append, List.map_append]
  · exact fun ps c o log => parseWithin_choose_eq_ok_iff

/-- The first of three fails behind the nest, and the second one, itself a choice, where it
began.  It is the failure of the second that remains, until a third one succeeds. -/
theorem nested_choose :
    parseWithin Nested.grammar 3
      (choose ([keepLeft Nested.nested (literal ['!'])] ++
        [map (literal ['y']) fun _ => (7 : Nat)])) (.start ['(', 'x', ')']) =
      .ok (.failure ⟨.expectedLiteral ['y'], ⟨['(', 'x', ')'], 0⟩⟩, []) ∧
    parseWithin Nested.grammar 3
      (choose ([keepLeft Nested.nested (literal ['!'])] ++
        choose [map (literal ['y']) fun _ => (7 : Nat), Nested.nested] :: [fail "none"]))
      (.start ['(', 'x', ')']) = .ok (.success 1 ⟨['(', 'x', ')'], 3⟩, []) := by
  obtain ⟨-, -, -, -, hsplice, hreturns⟩ := choose_agrees_with_orElse (α := Nat) Nested.grammar 3
  have hnest : AllFail Nested.grammar 3 (.start ['(', 'x', ')'])
      [keepLeft Nested.nested (literal ['!'])] ([] ++ []) := .cons rfl .nil
  have hboth : AllFail Nested.grammar 3 (.start ['(', 'x', ')'])
      [keepLeft Nested.nested (literal ['!']), map (literal ['y']) fun _ => (7 : Nat)]
      ([] ++ ([] ++ [])) := .cons rfl (.cons rfl .nil)
  refine ⟨?_, ?_⟩
  · exact (hreturns _ _ _ _).mpr (.inr ⟨_, _, [], _, [], rfl, hnest, rfl, rfl, .inl rfl⟩)
  · rw [hsplice _ _ _ (List.cons_ne_nil _ _)]
    exact (hreturns _ _ _ _).mpr
      (.inr ⟨_, Nested.nested, [fail "none"], _, [], rfl, hboth, rfl, rfl, .inr ⟨_, _, rfl⟩⟩)

end Parser
end TextGrammar
