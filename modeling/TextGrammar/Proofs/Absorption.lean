/-
Repetitions of what may match nothing.

A repetition that is wrapped in another one, or whose parser is made optional, reads what it
reads without the wrapping and ends at the same place.  Where it ends the parser stops, and so
the wrapped parser stops there as well: each lemma below says with which values.
-/
import TextGrammar.Proofs.Trail

namespace TextGrammar
namespace Parser

variable {S : Signature} {α β : Type} {g : Grammar S} {p : Parser S α} {c next last : Cursor}
  {v : α} {log : List Record} {steps : List (α × Cursor)} {extra vs : List α}

/-! ## Options -/

theorem Returns.optional_some (h : Returns g p c (.success v next, log)) :
    Returns g (optional p) c (.success (some v) next, log) := by
  obtain ⟨depth, hrun⟩ := h
  refine ⟨depth, ?_⟩
  rw [parseWithin_optional, Recogniser.optional, Run.resolve_of_success hrun, Run.after_success]

theorem Returns.optional_none {f : Failure} (h : Returns g p c (.failure f, log)) :
    Returns g (optional p) c (.success none c, log) := by
  obtain ⟨depth, hrun⟩ := h
  refine ⟨depth, ?_⟩
  rw [parseWithin_optional, Recogniser.optional, Run.resolve_of_failure hrun, Run.after_success]

/-- An optional parser has the trails of the parser, -/
theorem Trail.optional (h : Trail g p c steps) :
    Trail g (Parser.optional p) c (steps.map fun step => (some step.1, step.2)) := by
  induction h with
  | nil c => exact .nil c
  | cons hr hmove _ ih => exact .cons hr.optional_some hmove ih

theorem trailEnd_map (f : α → β) (c : Cursor) (steps : List (α × Cursor)) :
    trailEnd c (steps.map fun step => (f step.1, step.2)) = trailEnd c steps := by
  induction steps generalizing c with
  | nil => rfl
  | cons step steps ih => exact ih step.2

/-- and stops where it stops.  As it does not fail it has a value there in any case. -/
theorem Stops.optional (h : Stops g p c extra) :
    Stops g (Parser.optional p) c
      (extra.map some ++ if extra.isEmpty then [none] else []) := by
  cases h with
  | failed hf => exact .stayed hf.optional_none
  | stayed hs => exact .stayed hs.optional_some

/-! ## Repetitions of repetitions -/

/-- Started again where the parser stops, a repetition does not move. -/
theorem Stops.again (h : Stops g p c extra) : Stops g (Parser.many p) c [extra] := by
  obtain ⟨log, hmany⟩ := h.many
  exact .stayed hmany

theorem Stops.again1 (h : Stops g p c extra) :
    Stops g (Parser.many1 p) c (if extra.isEmpty then [] else [extra]) := by
  obtain ⟨log, hmany⟩ := h.many
  cases h with
  | failed hf => exact .failed hmany.many1_of_nil
  | stayed hs => exact .stayed (hmany.many1_of_ne_nil (List.cons_ne_nil _ _))

/-- A parser that stops where it has come to is repeated once more there, unless that is where
it began. -/
theorem Returns.many_of_stops (h : Returns g p c (.success v next, log)) (hc : c.OnBoundary)
    (hstop : Stops g p next extra) :
    ∃ log', Returns g (many p) c (.success (if next = c then [v] else v :: extra) next, log') := by
  obtain rfl | hmove := (h.reaches hc).eq_or_lt
  · rw [if_pos rfl]
    exact (Stops.stayed h).many
  · have hne : next ≠ c := by
      intro heq
      rw [heq] at hmove
      exact Nat.lt_irrefl _ hmove
    rw [if_neg hne]
    exact (Trail.cons h hmove (.nil next)).many hc hstop

/-- A repetition without matches has not moved. -/
theorem Returns.eq_of_many_nil (h : Returns g (many p) c (.success [] last, log))
    (hc : c.OnBoundary) : last = c := by
  obtain ⟨steps, extra, -, -, heq⟩ := h.exists_trail hc
  obtain ⟨hnil, rfl⟩ := Outcome.success.inj heq
  have hsteps : steps = [] := List.map_eq_nil_iff.mp (List.append_eq_nil_iff.mp hnil.symm).1
  rw [hsteps]
  rfl

theorem Returns.many_optional (h : Returns g (many p) c (.success vs last, log))
    (hc : c.OnBoundary) (hstop : Stops g p last extra) :
    ∃ log', Returns g (many (optional p)) c
      (.success (vs.map some ++ if extra.isEmpty then [none] else []) last, log') := by
  obtain ⟨steps, extra', htrail, hstop', heq⟩ := h.exists_trail hc
  obtain ⟨rfl, rfl⟩ := Outcome.success.inj heq
  obtain rfl := hstop.unique hstop'
  have hend := trailEnd_map some c steps
  obtain ⟨log', hmany⟩ := htrail.optional.many hc (hend.symm ▸ hstop.optional)
  refine ⟨log', ?_⟩
  rw [hend, List.map_map, ← List.append_assoc] at hmany
  rw [List.map_append, List.map_map]
  exact hmany

theorem Returns.optional_many1 (h : Returns g (many p) c (.success vs last, log))
    (hc : c.OnBoundary) :
    Returns g (optional (many1 p)) c
      (.success (if vs.isEmpty then none else some vs) last, log) := by
  cases vs with
  | nil =>
    rw [h.eq_of_many_nil hc]
    exact h.many1_of_nil.optional_none
  | cons v vs => exact (h.many1_of_ne_nil (List.cons_ne_nil v vs)).optional_some

theorem Returns.many_many1 (h : Returns g (many p) c (.success vs last, log))
    (hc : c.OnBoundary) (hstop : Stops g p last extra) :
    ∃ log', Returns g (many (many1 p)) c
      (.success (if vs.isEmpty then [] else if last = c ∨ extra.isEmpty then [vs]
        else [vs, extra]) last, log') := by
  cases vs with
  | nil =>
    rw [h.eq_of_many_nil hc]
    exact (Stops.failed h.many1_of_nil).many
  | cons v vs =>
    obtain ⟨log', hmany⟩ :=
      (h.many1_of_ne_nil (List.cons_ne_nil v vs)).many_of_stops hc hstop.again1
    refine ⟨log', ?_⟩
    by_cases hstay : last = c
    · rw [if_pos hstay] at hmany
      rwa [List.isEmpty_cons, if_neg Bool.false_ne_true, if_pos (.inl hstay)]
    · rw [if_neg hstay] at hmany
      rw [List.isEmpty_cons, if_neg Bool.false_ne_true]
      cases extra with
      | nil =>
        rw [if_pos (.inr rfl)]
        exact hmany
      | cons w ws => rwa [if_neg (by simp [hstay])]

/-- Where a repetition succeeds the parser stops.  Repeating its option, repeating the
repetition, with at least one match or without this condition, and making the repetition with
at least one match optional all succeed at the same place.  Their values are those of the
repetition, grouped as the wrapping groups them, and where it started again behind them, the
ones with which the parser stops. -/
theorem many_absorbs (hc : c.OnBoundary) (h : Returns g (many p) c (.success vs last, log)) :
    ∃ extra, Stops g p last extra ∧
      (∃ log', Returns g (many (optional p)) c
        (.success (vs.map some ++ if extra.isEmpty then [none] else []) last, log')) ∧
      (∃ log', Returns g (optional (many1 p)) c
        (.success (if vs.isEmpty then none else some vs) last, log')) ∧
      (∃ log', Returns g (many (many p)) c
        (.success (if last = c then [vs] else [vs, extra]) last, log')) ∧
      (∃ log', Returns g (many (many1 p)) c
        (.success (if vs.isEmpty then [] else if last = c ∨ extra.isEmpty then [vs]
          else [vs, extra]) last, log')) := by
  obtain ⟨steps, extra, -, hstop, heq⟩ := h.exists_trail hc
  obtain ⟨-, rfl⟩ := Outcome.success.inj heq
  exact ⟨extra, hstop, h.many_optional hc hstop, ⟨log, h.optional_many1 hc⟩,
    h.many_of_stops hc hstop.again, h.many_many1 hc hstop⟩

/-- An optional nest matches twice, and then without moving.  So each repetition around its
repetition goes round once more, for a list with that last match only. -/
theorem nested_absorbs :
    (Cursor.start ['x', '(', 'x', ')', 'é']).OnBoundary ∧
    Returns Nested.grammar (many (optional (rule ()))) (.start ['x', '(', 'x', ')', 'é'])
      (.success [some 0, some 1, none] ⟨['x', '(', 'x', ')', 'é'], 4⟩, [.repetitionEnded 4]) ∧
    (∃ log, Returns Nested.grammar (many (many (optional (rule ()))))
      (.start ['x', '(', 'x', ')', 'é'])
      (.success [[some 0, some 1, none], [none]] ⟨['x', '(', 'x', ')', 'é'], 4⟩, log)) ∧
    ∃ log, Returns Nested.grammar (many (many1 (optional (rule ()))))
      (.start ['x', '(', 'x', ')', 'é'])
      (.success [[some 0, some 1, none], [none]] ⟨['x', '(', 'x', ')', 'é'], 4⟩, log) := by
  have hc : (Cursor.start ['x', '(', 'x', ')', 'é']).OnBoundary := Text.isBoundary_zero _
  have hmany : Returns Nested.grammar (many (optional (rule ())))
      (.start ['x', '(', 'x', ')', 'é'])
      (.success [some 0, some 1, none] ⟨['x', '(', 'x', ')', 'é'], 4⟩, [.repetitionEnded 4]) :=
    ⟨2, rfl⟩
  have hnone : Stops Nested.grammar (optional (rule ())) ⟨['x', '(', 'x', ')', 'é'], 4⟩ [none] :=
    .stayed ⟨2, rfl⟩
  obtain ⟨extra, hstop, -, -, hagain, hagain1⟩ := many_absorbs hc hmany
  obtain rfl := hstop.unique hnone
  exact ⟨hc, hmany, hagain, hagain1⟩

end Parser
end TextGrammar
