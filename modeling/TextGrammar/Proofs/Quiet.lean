/-
Runs in which no repetition was cut short.

A quiet log has no record of an item that consumed nothing.  `EndsQuietly` looks at runs
with such logs, and only at where they end; it follows how runs are put together.
-/
import TextGrammar.Proofs.Safety

namespace TextGrammar

variable {α β γ : Type}

/-- The records of a repetition or a list that ended on what consumed nothing. -/
def Record.isZeroWidth : Record → Bool
  | repetitionEnded _ | listEnded _ => true
  | _ => false

def Quiet (log : List Record) : Prop := ∀ r ∈ log, r.isZeroWidth = false

theorem quiet_nil : Quiet [] := fun _ hr => absurd hr List.not_mem_nil

theorem quiet_append_iff {l m : List Record} : Quiet (l ++ m) ↔ Quiet l ∧ Quiet m :=
  List.forall_mem_append

theorem quiet_singleton_iff {r : Record} : Quiet [r] ↔ r.isZeroWidth = false :=
  List.forall_mem_singleton

/-- The offset at which an attempt succeeded, if it did. -/
def Outcome.stop? : Outcome α → Option Nat
  | success _ next => some next.offset
  | failure _ => none

namespace Run

variable {c : Cursor} {o : Option Nat} {r : Run α}

def YieldsQuietly (r : Run α) (v : α) (next : Cursor) : Prop :=
  ∃ log, r = .ok (.success v next, log) ∧ Quiet log

def FailsQuietly (r : Run α) (f : Failure) : Prop :=
  ∃ log, r = .ok (.failure f, log) ∧ Quiet log

/-- The run has a quiet log and succeeds at the given offset, or fails if none is given. -/
def EndsQuietly (r : Run α) (o : Option Nat) : Prop :=
  ∃ x log, r = .ok (x, log) ∧ Quiet log ∧ x.stop? = o

theorem YieldsQuietly.yields {v : α} {next : Cursor} (h : r.YieldsQuietly v next) :
    r.Yields v next := by
  obtain ⟨log, h, -⟩ := h
  exact ⟨log, h⟩

theorem endsQuietly_ok_iff {x : Outcome α} {log : List Record} :
    EndsQuietly (.ok (x, log)) o ↔ Quiet log ∧ x.stop? = o := by
  constructor
  · intro h
    obtain ⟨x', log', h, hq, ho⟩ := h
    cases h
    exact ⟨hq, ho⟩
  · intro h
    obtain ⟨hq, ho⟩ := h
    exact ⟨x, log, rfl, hq, ho⟩

theorem not_endsQuietly_error {b : Breakdown} : ¬ EndsQuietly (.error b : Run α) o := by
  intro h
  obtain ⟨x, log, h, -⟩ := h
  cases h

theorem endsQuietly_some_iff {j : Nat} :
    r.EndsQuietly (some j) ↔ ∃ v next, r.YieldsQuietly v next ∧ next.offset = j := by
  constructor
  · intro h
    obtain ⟨x, log, rfl, hq, ho⟩ := h
    cases x with
    | success v next => exact ⟨v, next, ⟨log, rfl, hq⟩, Option.some.inj ho⟩
    | failure f => cases ho
  · intro h
    obtain ⟨v, next, ⟨log, rfl, hq⟩, rfl⟩ := h
    exact ⟨_, log, rfl, hq, rfl⟩

theorem endsQuietly_none_iff : r.EndsQuietly none ↔ ∃ f, r.FailsQuietly f := by
  constructor
  · intro h
    obtain ⟨x, log, rfl, hq, ho⟩ := h
    cases x with
    | success v next => cases ho
    | failure f => exact ⟨f, log, rfl, hq⟩
  · intro h
    obtain ⟨f, log, rfl, hq⟩ := h
    exact ⟨_, log, rfl, hq, rfl⟩

/-- A run ends in one way only. -/
theorem EndsQuietly.unique {o' : Option Nat} (h : r.EndsQuietly o) (h' : r.EndsQuietly o') :
    o = o' := by
  obtain ⟨x, log, rfl, -, rfl⟩ := h
  exact (endsQuietly_ok_iff.mp h').2

/-! ## How runs are put together -/

theorem endsQuietly_success_iff {v : α} : (success v c).EndsQuietly o ↔ o = some c.offset := by
  rw [success, endsQuietly_ok_iff, and_iff_right quiet_nil]
  exact eq_comm

theorem endsQuietly_failure_iff {f : Failure} :
    (failure f : Run α).EndsQuietly o ↔ o = none := by
  rw [failure, endsQuietly_ok_iff, and_iff_right quiet_nil]
  exact eq_comm

theorem endsQuietly_after_iff {log : List Record} :
    (r.after log).EndsQuietly o ↔ Quiet log ∧ r.EndsQuietly o := by
  rcases r with b | ⟨x, log'⟩
  · exact ⟨fun h => absurd h not_endsQuietly_error, fun h => absurd h.2 not_endsQuietly_error⟩
  · rw [after, endsQuietly_ok_iff, endsQuietly_ok_iff, quiet_append_iff, and_assoc]

theorem endsQuietly_record_iff {f : Outcome α → Record}
    (hf : ∀ x, (f x).isZeroWidth = false) : (r.record f).EndsQuietly o ↔ r.EndsQuietly o := by
  rcases r with b | ⟨x, log⟩
  · rfl
  · rw [record, endsQuietly_ok_iff, endsQuietly_ok_iff, quiet_append_iff, quiet_singleton_iff,
      and_iff_left (hf x)]

/-- A run that goes on ends quietly if both of its parts do. -/
theorem endsQuietly_resolve_iff {f : α → Cursor → Run β} {g : Failure → Run β} :
    (r.resolve f g).EndsQuietly o ↔
      (∃ v next, r.YieldsQuietly v next ∧ (f v next).EndsQuietly o) ∨
        (∃ e, r.FailsQuietly e ∧ (g e).EndsQuietly o) := by
  rcases r with b | ⟨x, log⟩
  · constructor
    · exact fun h => absurd h not_endsQuietly_error
    · intro h
      obtain ⟨v, next, ⟨l, h, -⟩, -⟩ | ⟨e, ⟨l, h, -⟩, -⟩ := h
      · cases h
      · cases h
  · cases x with
    | success v next =>
      refine endsQuietly_after_iff.trans ⟨fun ⟨hq, h⟩ => .inl ⟨v, next, ⟨log, rfl, hq⟩, h⟩, ?_⟩
      intro h
      obtain ⟨w, next', ⟨l, h, hq⟩, h'⟩ | ⟨e, ⟨l, h, -⟩, -⟩ := h
      · cases h
        exact ⟨hq, h'⟩
      · cases h
    | failure e =>
      refine endsQuietly_after_iff.trans ⟨fun ⟨hq, h⟩ => .inr ⟨e, ⟨log, rfl, hq⟩, h⟩, ?_⟩
      intro h
      obtain ⟨w, next', ⟨l, h, -⟩, -⟩ | ⟨e', ⟨l, h, hq⟩, h'⟩ := h
      · cases h
      · cases h
        exact ⟨hq, h'⟩

/-- Where failure leads to the same end whatever it was, only the fact of it counts. -/
theorem endsQuietly_resolve_const_iff {f : α → Cursor → Run β} {s : Run β} :
    (r.resolve f fun _ => s).EndsQuietly o ↔
      (∃ v next, r.YieldsQuietly v next ∧ (f v next).EndsQuietly o) ∨
        (r.EndsQuietly none ∧ s.EndsQuietly o) := by
  refine endsQuietly_resolve_iff.trans (or_congr_right ?_)
  rw [endsQuietly_none_iff]
  exact exists_and_right

theorem endsQuietly_andThen_iff {f : α → Cursor → Run β} :
    (r.andThen f).EndsQuietly o ↔
      (∃ v next, r.YieldsQuietly v next ∧ (f v next).EndsQuietly o) ∨
        (r.EndsQuietly none ∧ o = none) := by
  refine endsQuietly_resolve_iff.trans (or_congr_right ?_)
  simp only [endsQuietly_failure_iff, endsQuietly_none_iff, exists_and_right]

/-- Another value, or another failure, makes no difference. -/
theorem endsQuietly_resolve_success_iff {f : α → Cursor → β} {g : Failure → Failure} :
    (r.resolve (fun v next => success (f v next) next) fun e => failure (g e)).EndsQuietly o ↔
      r.EndsQuietly o := by
  rw [endsQuietly_resolve_iff]
  simp only [endsQuietly_success_iff, endsQuietly_failure_iff]
  cases o with
  | none => simp only [endsQuietly_none_iff, reduceCtorEq, and_false, exists_false, false_or,
      and_true]
  | some j => simp only [endsQuietly_some_iff, Option.some.injEq, reduceCtorEq, and_false,
      exists_false, or_false, eq_comm]

theorem endsQuietly_andThen_success_iff {f : α → Cursor → β} :
    (r.andThen fun v next => success (f v next) next).EndsQuietly o ↔ r.EndsQuietly o :=
  endsQuietly_resolve_success_iff

theorem endsQuietly_andThen_noted_iff {text : α → String} :
    (r.andThen fun v next => after [.noted (text v)] (success v next)).EndsQuietly o ↔
      r.EndsQuietly o := by
  have hnoted (v : α) (next : Cursor) : (after [.noted (text v)] (success v next)).EndsQuietly o ↔
      (success v next).EndsQuietly o := by
    rw [endsQuietly_after_iff, quiet_singleton_iff]
    exact and_iff_right rfl
  rw [endsQuietly_andThen_iff]
  simp only [hnoted]
  rw [← endsQuietly_andThen_iff]
  exact endsQuietly_andThen_success_iff

end Run
end TextGrammar
