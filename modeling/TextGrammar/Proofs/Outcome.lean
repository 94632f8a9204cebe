/-
Runs without their records.

Two runs have the same outcome if they break down in the same way, or end with the same value
at the same place, or with the same failure.  What a run goes on with depends on its outcome
alone, so parts of a run may be replaced by others of the same outcome.
-/
import TextGrammar.Run

namespace TextGrammar
namespace Run

variable {α β : Type} {r r' : Run α}

/-- How the run ends, whatever it has recorded. -/
def outcome (r : Run α) : Except Breakdown (Outcome α) := r.map Prod.fst

theorem outcome_after (log : List Record) (r : Run α) : (r.after log).outcome = r.outcome := by
  rcases r with b | ⟨o, log'⟩ <;> rfl

theorem outcome_resolve_congr {f f' : α → Cursor → Run β} {g g' : Failure → Run β}
    (hr : r.outcome = r'.outcome) (hf : ∀ v next, (f v next).outcome = (f' v next).outcome)
    (hg : ∀ e, (g e).outcome = (g' e).outcome) :
    (r.resolve f g).outcome = (r'.resolve f' g').outcome := by
  rcases r with b | ⟨o, log⟩
  · rcases r' with b' | ⟨o', log'⟩
    · cases hr
      rfl
    · cases hr
  · rcases r' with b' | ⟨o', log'⟩
    · cases hr
    · obtain rfl : o = o' := Except.ok.inj hr
      cases o with
      | success v next =>
        show ((f v next).after log).outcome = ((f' v next).after log').outcome
        rw [outcome_after, outcome_after, hf]
      | failure e =>
        show ((g e).after log).outcome = ((g' e).after log').outcome
        rw [outcome_after, outcome_after, hg]

/-- A run that is made again in front of another part does not fail on the second time, nor
does it end elsewhere. -/
theorem outcome_andThen_resolve_andThen (r : Run α) (f f' : α → Cursor → Run β) :
    ((r.andThen f).resolve success fun _ => r.andThen f').outcome =
      (r.andThen fun v next => (f v next).resolve success fun _ => f' v next).outcome := by
  rcases r with b | ⟨o, log⟩
  · rfl
  · cases o with
    | failure e => rfl
    | success v next =>
      show (((f v next).after log).resolve success fun _ => (f' v next).after log).outcome =
        (((f v next).resolve success fun _ => f' v next).after log).outcome
      rw [resolve_after, outcome_after, outcome_after]
      exact outcome_resolve_congr rfl (fun _ _ => rfl) fun _ => outcome_after log (f' v next)

theorem outcome_eq_ok_iff {o : Outcome α} : r.outcome = .ok o ↔ ∃ log, r = .ok (o, log) := by
  constructor
  · intro h
    rcases r with b | ⟨x, log⟩
    · cases h
    · cases h
      exact ⟨log, rfl⟩
  · rintro ⟨log, rfl⟩
    rfl

theorem outcome_success_eq_ok_iff {v : α} {c : Cursor} {o : Outcome α} :
    (success v c).outcome = .ok o ↔ o = .success v c :=
  ⟨fun h => (Except.ok.inj h).symm, fun h => congrArg Except.ok h.symm⟩

theorem outcome_failure_eq_ok_iff {f : Failure} {o : Outcome α} :
    (failure f : Run α).outcome = .ok o ↔ o = .failure f :=
  ⟨fun h => (Except.ok.inj h).symm, fun h => congrArg Except.ok h.symm⟩

end Run
end TextGrammar
