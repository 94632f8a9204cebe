/-
Looking ahead.

A parser that only looks ahead stands where it began when it succeeds.  If it looks for a failure
it also reports where it began, whatever its part has reported, so that nothing is left of the
part but whether it succeeds.  Looking for a failure three times is looking for it once, and
looking ahead within or around it changes nothing.

A choice tries its parts up to the first that succeeds, all at one place.  A sequence of parts
that look for failures stays at one place too, and stops at the same part.
-/
import TextGrammar.Proofs.OrderedChoice
import TextGrammar.Proofs.Outcome
import TextGrammar.Proofs.Sequencing

namespace TextGrammar

variable {α β : Type}

namespace Run

/-- A run that goes on has an outcome if both of its parts do. -/
theorem outcome_resolve_eq_ok_iff {r : Run α} {f : α → Cursor → Run β} {g : Failure → Run β}
    {o : Outcome β} :
    (r.resolve f g).outcome = .ok o ↔
      (∃ v next, r.outcome = .ok (.success v next) ∧ (f v next).outcome = .ok o) ∨
      (∃ e, r.outcome = .ok (.failure e) ∧ (g e).outcome = .ok o) := by
  simp only [outcome_eq_ok_iff, resolve_eq_ok_iff]
  constructor
  · rintro ⟨log, ⟨v, next, l, m, hr, hf, -⟩ | ⟨e, l, m, hr, hg, -⟩⟩
    · exact .inl ⟨v, next, ⟨l, hr⟩, m, hf⟩
    · exact .inr ⟨e, ⟨l, hr⟩, m, hg⟩
  · rintro (⟨v, next, ⟨l, hr⟩, m, hf⟩ | ⟨e, ⟨l, hr⟩, m, hg⟩)
    · exact ⟨l ++ m, .inl ⟨v, next, l, m, hr, hf, rfl⟩⟩
    · exact ⟨l ++ m, .inr ⟨e, l, m, hr, hg, rfl⟩⟩

end Run

namespace Recogniser

open Run

variable {p : Recogniser α} {c : Cursor}

/-- Nothing, where `p` fails. -/
def notAhead (p : Recogniser α) : Recogniser Unit := fun c =>
  (p c).resolve (fun _ _ => failAt c .unexpectedMatch) fun _ => success () c

/-- The value of `p`, consuming nothing. -/
def lookAhead (p : Recogniser α) : Recogniser α := fun c =>
  (p c).andThen fun v _ => success v c

theorem notAhead_lookAhead (p : Recogniser α) : notAhead (lookAhead p) = notAhead p := by
  funext c
  show ((p c).resolve (fun v _ => success v c) failure).resolve _ _ = _
  rw [resolve_resolve]
  simp only [resolve_success, resolve_failure]
  rfl

theorem lookAhead_notAhead (p : Recogniser α) : lookAhead (notAhead p) = notAhead p := by
  funext c
  show ((p c).resolve _ _).resolve (fun v _ => success v c) failure = _
  rw [resolve_resolve]
  simp only [failAt, resolve_success, resolve_failure]
  rfl

theorem lookAhead_lookAhead (p : Recogniser α) : lookAhead (lookAhead p) = lookAhead p := by
  funext c
  show ((p c).andThen _).andThen _ = _
  rw [andThen_andThen]
  simp only [andThen_success]
  rfl

/-- Where a failure is looked for twice, only the fact of success or failure is left. -/
theorem notAhead_notAhead (p : Recogniser α) (c : Cursor) :
    notAhead (notAhead p) c =
      (p c).resolve (fun _ _ => success () c) fun _ => failAt c .unexpectedMatch := by
  show ((p c).resolve _ _).resolve _ _ = _
  rw [resolve_resolve]
  simp only [failAt, resolve_success, resolve_failure]

theorem notAhead_notAhead_notAhead (p : Recogniser α) :
    notAhead (notAhead (notAhead p)) = notAhead p := by
  funext c
  rw [notAhead, notAhead_notAhead, resolve_resolve]
  simp only [failAt, resolve_success, resolve_failure]
  rfl

/-- None of the parts succeeds if each of them fails. -/
theorem notAhead_choice (ps : List (Recogniser α)) :
    notAhead (choice ps) = fun c =>
      (sequence (ps.map notAhead) c).andThen fun _ last => success () last := by
  induction ps with
  | nil => rfl
  | cons p ps ih =>
    -- The sequence ends at the part that ends the choice, and with the same failure.
    have hsequence (c : Cursor) :
        ((sequence ((p :: ps).map notAhead) c).andThen fun _ last => success () last) =
          (p c).resolve (fun _ _ => failAt c .unexpectedMatch)
            fun _ => notAhead (choice ps) c := by
      show ((notAhead p c).andThen fun _ next => (sequence (ps.map notAhead) next).andThen
        _).andThen _ = _
      rw [andThen_andThen, ih, andThen, notAhead, resolve_resolve]
      simp only [failAt, resolve_success, resolve_failure, andThen_andThen, andThen_success]
    funext c
    rw [hsequence]
    by_cases hps : ps = []
    · subst hps
      rfl
    · rw [choice_cons p hps]
      show ((p c).resolve success fun _ => choice ps c).resolve _ _ = _
      rw [resolve_resolve]
      simp only [resolve_success]
      rfl

/-- What has been seen ahead is there to be read. -/
theorem outcome_lookAhead_andThen (p : Recogniser α) (c : Cursor) :
    ((lookAhead p c).andThen fun _ next => p next).outcome = (p c).outcome := by
  rw [lookAhead, andThen_andThen]
  simp only [andThen_success]
  cases hp : p c with
  | error b => rfl
  | ok x =>
    obtain ⟨o, log⟩ := x
    cases o with
    | failure f => rfl
    | success v next =>
      rw [andThen_of_success rfl, outcome_after]

/-! ## Where looking ahead ends -/

theorem outcome_notAhead_eq_ok_iff {o : Outcome Unit} :
    (notAhead p c).outcome = .ok o ↔
      ((∃ v next, (p c).outcome = .ok (.success v next)) ∧
        o = .failure ⟨.unexpectedMatch, c.location⟩) ∨
      ((∃ f, (p c).outcome = .ok (.failure f)) ∧ o = .success () c) := by
  rw [notAhead, outcome_resolve_eq_ok_iff]
  simp only [failAt, outcome_failure_eq_ok_iff, outcome_success_eq_ok_iff, exists_and_right]

theorem outcome_lookAhead_eq_ok_iff {o : Outcome α} :
    (lookAhead p c).outcome = .ok o ↔
      (∃ v next, (p c).outcome = .ok (.success v next) ∧ o = .success v c) ∨
      (∃ f, (p c).outcome = .ok (.failure f) ∧ o = .failure f) := by
  rw [lookAhead, andThen, outcome_resolve_eq_ok_iff]
  simp only [outcome_success_eq_ok_iff, outcome_failure_eq_ok_iff]

/-- Neither of them gets away from the place where it looks. -/
theorem outcome_notAhead_success_iff {u : Unit} {next : Cursor} :
    (notAhead p c).outcome = .ok (.success u next) ↔
      next = c ∧ ∃ f, (p c).outcome = .ok (.failure f) := by
  rw [outcome_notAhead_eq_ok_iff]
  constructor
  · rintro (⟨-, h⟩ | ⟨hf, h⟩)
    · cases h
    · cases h
      exact ⟨rfl, hf⟩
  · rintro ⟨rfl, hf⟩
    exact .inr ⟨hf, rfl⟩

theorem outcome_lookAhead_success_iff {v : α} {next : Cursor} :
    (lookAhead p c).outcome = .ok (.success v next) ↔
      next = c ∧ ∃ last, (p c).outcome = .ok (.success v last) := by
  rw [outcome_lookAhead_eq_ok_iff]
  constructor
  · rintro (⟨w, last, hp, h⟩ | ⟨f, -, h⟩)
    · cases h
      exact ⟨rfl, last, hp⟩
    · cases h
  · rintro ⟨rfl, last, hp⟩
    exact .inl ⟨v, last, hp, rfl⟩

/-- What is found at a place may be found again there, and no failure is reported but at it. -/
theorem outcome_notAhead_notAhead_eq_ok_iff {o : Outcome Unit} :
    (notAhead (notAhead p) c).outcome = .ok o ↔
      ((∃ v next, (p c).outcome = .ok (.success v next)) ∧ o = .success () c) ∨
      ((∃ f, (p c).outcome = .ok (.failure f)) ∧
        o = .failure ⟨.unexpectedMatch, c.location⟩) := by
  rw [notAhead_notAhead, outcome_resolve_eq_ok_iff]
  simp only [failAt, outcome_failure_eq_ok_iff, outcome_success_eq_ok_iff, exists_and_right]

end Recogniser

namespace Parser

variable {S : Signature} {call : (r : S.Rule) → Recogniser (S.Result r)}

theorem denote_notAhead (p : Parser S α) :
    denote call (notAhead p) = Recogniser.notAhead (denote call p) := rfl

theorem denote_notAhead_choose (ps : List (Parser S α)) :
    denote call (notAhead (choose ps)) =
      denote call (map (inOrder (ps.map notAhead)) fun _ => ()) := by
  have hmap : (ps.map notAhead).map (denote call) = (ps.map (denote call)).map .notAhead := by
    simp only [List.map_map, Function.comp_def, denote_notAhead]
  show _ = fun c => (denote call (inOrder (ps.map notAhead)) c).andThen _
  rw [denote_notAhead, denote_choose, denote_inOrder, hmap, Recogniser.notAhead_choice]

/-- No parser of a list succeeds at a place if each of them fails there, one after the other, and
to find this out makes the same records; of an empty list none succeeds.  Looking for a failure
three times, around a look ahead or within one, is looking for it once, and looking ahead twice
is looking ahead once.  A parser may be tried by a look ahead before it is run.  Looking for a
failure twice succeeds where the parser does, but there the failure is that of an unexpected match
and not the parser's own.  Whatever looks ahead succeeds where it began. -/
theorem lookAhead_algebra (g : Grammar S) (depth : Nat) :
    (∀ ps : List (Parser S α),
      parseWithin g depth (notAhead (choose ps)) =
        parseWithin g depth (map (inOrder (ps.map notAhead)) fun _ => ())) ∧
    ∀ p : Parser S α,
      parseWithin g depth (notAhead (notAhead (notAhead p))) = parseWithin g depth (notAhead p) ∧
      parseWithin g depth (notAhead (lookAhead p)) = parseWithin g depth (notAhead p) ∧
      parseWithin g depth (lookAhead (notAhead p)) = parseWithin g depth (notAhead p) ∧
      parseWithin g depth (lookAhead (lookAhead p)) = parseWithin g depth (lookAhead p) ∧
      ∀ c : Cursor,
        (parseWithin g depth (keepRight (lookAhead p) p) c).outcome =
          (parseWithin g depth p c).outcome ∧
        (∀ o, (parseWithin g depth (notAhead (notAhead p)) c).outcome = .ok o ↔
          ((∃ v next, (parseWithin g depth p c).outcome = .ok (.success v next)) ∧
            o = .success () c) ∨
          ((∃ f, (parseWithin g depth p c).outcome = .ok (.failure f)) ∧
            o = .failure ⟨.unexpectedMatch, c.location⟩)) ∧
        (∀ u next, (parseWithin g depth (notAhead p) c).outcome = .ok (.success u next) ↔
          next = c ∧ ∃ f, (parseWithin g depth p c).outcome = .ok (.failure f)) ∧
        ∀ v next, (parseWithin g depth (lookAhead p) c).outcome = .ok (.success v next) ↔
          next = c ∧ ∃ last, (parseWithin g depth p c).outcome = .ok (.success v last) := by
  obtain ⟨call, hcall⟩ := exists_parseWithin_eq_denote g depth
  simp only [hcall]
  refine ⟨denote_notAhead_choose, fun p => ?_⟩
  refine ⟨Recogniser.notAhead_notAhead_notAhead _, Recogniser.notAhead_lookAhead _,
    Recogniser.lookAhead_notAhead _, Recogniser.lookAhead_lookAhead _, fun c => ?_⟩
  refine ⟨Recogniser.outcome_lookAhead_andThen _ c,
    fun o => Recogniser.outcome_notAhead_notAhead_eq_ok_iff,
    fun u next => Recogniser.outcome_notAhead_success_iff,
    fun v next => Recogniser.outcome_lookAhead_success_iff⟩

/-- A look ahead fails where its part does, and looking for a failure twice fails where it began. -/
example :
    parseWithin Nested.grammar 1 (lookAhead (keepRight (literal ['(']) (literal [')'])))
      (.start ['(', 'x']) = .ok (.failure ⟨.expectedLiteral [')'], ⟨['(', 'x'], 1⟩⟩, []) ∧
    parseWithin Nested.grammar 1
      (notAhead (notAhead (keepRight (literal ['(']) (literal [')'])))) (.start ['(', 'x']) =
      .ok (.failure ⟨.unexpectedMatch, ⟨['(', 'x'], 0⟩⟩, []) := ⟨rfl, rfl⟩

end Parser
end TextGrammar
