/-
Left factoring.

Alternatives that begin with the same parser may be factored: the parser first, and then the
choice of what follows it.  On the left it is run again for every alternative, but always from
the same place and so with the same outcome.  If it fails, all alternatives fail as it does, and
otherwise the choice is between what follows.
-/
import TextGrammar.Proofs.OrderedChoice
import TextGrammar.Proofs.Outcome

namespace TextGrammar

variable {α β : Type}

namespace Recogniser

open Run

/-- Alternatives that go on from one part have the outcome of the part that goes on with the
choice of them. -/
theorem outcome_choice_andThen (p : Recogniser α) {fs : List (α → Recogniser β)} (hfs : fs ≠ [])
    (c : Cursor) :
    (choice (fs.map fun f c => (p c).andThen f) c).outcome =
      ((p c).andThen fun v => choice (fs.map (· v))).outcome := by
  induction fs with
  | nil => exact absurd rfl hfs
  | cons f fs ih =>
    by_cases hnil : fs = []
    · subst hnil
      rfl
    · have hne {γ : Type} (h : (α → Recogniser β) → γ) : fs.map h ≠ [] :=
        fun hmap => hnil (List.map_eq_nil_iff.mp hmap)
      have hrest (v : α) : choice ((f :: fs).map (· v)) = orElse (f v) (choice (fs.map (· v))) :=
        choice_cons (f v) (hne _)
      rw [List.map_cons, choice_cons _ (hne _)]
      simp only [hrest]
      calc (((p c).andThen f).resolve success fun _ => choice (fs.map _) c).outcome
          = (((p c).andThen f).resolve success fun _ =>
              (p c).andThen fun v => choice (fs.map (· v))).outcome :=
            outcome_resolve_congr rfl (fun _ _ => rfl) fun _ => ih hnil
        _ = ((p c).andThen fun v => orElse (f v) (choice (fs.map (· v)))).outcome :=
            outcome_andThen_resolve_andThen (p c) f _

end Recogniser

namespace Parser

variable {S : Signature}

theorem outcome_choose_chain (g : Grammar S) (depth : Nat) (p : Parser S α)
    {fs : List (α → Parser S β)} (hfs : fs ≠ []) (c : Cursor) :
    (parseWithin g depth (choose (fs.map (chain p))) c).outcome =
      (parseWithin g depth (chain p fun v => choose (fs.map (· v))) c).outcome := by
  have hne : (fs.map fun f v => parseWithin g depth (f v)) ≠ [] :=
    fun hmap => hfs (List.map_eq_nil_iff.mp hmap)
  have hfactored := Recogniser.outcome_choice_andThen (parseWithin g depth p) hne c
  simp only [List.map_map, Function.comp_def] at hfactored
  rw [parseWithin_choose, parseWithin_chain]
  simp only [parseWithin_choose, parseWithin_chain, List.map_map, Function.comp_def]
  exact hfactored

theorem outcome_choose_keepRight (g : Grammar S) (depth : Nat) (p : Parser S α)
    {qs : List (Parser S β)} (hqs : qs ≠ []) (c : Cursor) :
    (parseWithin g depth (choose (qs.map (keepRight p))) c).outcome =
      (parseWithin g depth (keepRight p (choose qs)) c).outcome := by
  -- What follows is selected by a value that none of the selections looks at.
  have hne : (qs.map fun (q : Parser S β) (_ : α) => q) ≠ [] :=
    fun hmap => hqs (List.map_eq_nil_iff.mp hmap)
  have hfactored := outcome_choose_chain g depth p hne c
  simp only [parseWithin_choose, parseWithin_chain, List.map_map, Function.comp_def,
    List.map_id'] at hfactored
  rw [parseWithin_choose, parseWithin_keepRight, parseWithin_choose]
  simp only [parseWithin_keepRight, List.map_map, Function.comp_def]
  exact hfactored

/-- Alternatives with a common beginning may be factored: from any place, and from any list of
alternatives that is not empty, the value, the place where it stops and the failure are those of
the beginning with the choice of what follows behind it.  This is so for parsers behind a
beginning, for two of them, and for parsers that the value of the beginning selects. -/
theorem choose_leftFactors (g : Grammar S) (depth : Nat) (p : Parser S α) (c : Cursor) :
    (∀ qs : List (Parser S β), qs ≠ [] →
      (parseWithin g depth (choose (qs.map (keepRight p))) c).outcome =
        (parseWithin g depth (keepRight p (choose qs)) c).outcome) ∧
    (∀ a b : Parser S β,
      (parseWithin g depth (orElse (keepRight p a) (keepRight p b)) c).outcome =
        (parseWithin g depth (keepRight p (orElse a b)) c).outcome) ∧
    (∀ fs : List (α → Parser S β), fs ≠ [] →
      (parseWithin g depth (choose (fs.map (chain p))) c).outcome =
        (parseWithin g depth (chain p fun v => choose (fs.map (· v))) c).outcome) := by
  refine ⟨?_, ?_, ?_⟩
  · intro qs hqs
    exact outcome_choose_keepRight g depth p hqs c
  · intro a b
    have htwo := outcome_choose_keepRight g depth p (List.cons_ne_nil a [b]) c
    rw [List.map_cons, List.map_singleton, parseWithin_choose_pair, parseWithin_keepRight,
      parseWithin_choose_pair, ← parseWithin_keepRight] at htwo
    exact htwo
  · intro fs hfs
    exact outcome_choose_chain g depth p hfs c

/-- Optional nests without end are read once for each of two alternatives, or once for both. -/
theorem nested_leftFactors :
    ([literal ['!'], literal ['?']] : List (Parser Nested.signature Text)) ≠ [] ∧
    (parseWithin Nested.grammar 2
      (choose ([literal ['!'], literal ['?']].map (keepRight (many (optional (rule ()))))))
      (.start ['x', '(', 'x', ')', '.'])).outcome =
      .ok (.failure ⟨.expectedLiteral ['?'], ⟨['x', '(', 'x', ')', '.'], 4⟩⟩) ∧
    parseWithin Nested.grammar 2
      (keepRight (many (optional (rule ()))) (choose [literal ['!'], literal ['?']]))
      (.start ['x', '(', 'x', ')', '.']) =
      .ok (.failure ⟨.expectedLiteral ['?'], ⟨['x', '(', 'x', ')', '.'], 4⟩⟩,
        [.repetitionEnded 4]) := by
  have hne : ([literal ['!'], literal ['?']] : List (Parser Nested.signature Text)) ≠ [] :=
    List.cons_ne_nil _ _
  obtain ⟨hthen, -, -⟩ := choose_leftFactors Nested.grammar 2 (many (optional (rule ())))
    (.start ['x', '(', 'x', ')', '.'])
  exact ⟨hne, hthen _ hne, rfl⟩

end Parser
end TextGrammar
