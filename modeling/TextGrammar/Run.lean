/-
Runs.

A run ends with an outcome and the records made on the way, or it breaks down.  It
breaks down where a text would be cut inside a character, where rules are nested
deeper than a given bound, and where a repetition would go on beyond the text.

`resolve` goes on from a run as its outcome says, and keeps the records of both parts
in order.  It is associative, and records made before a run can be taken out of it.
-/
import TextGrammar.Cursor
import TextGrammar.Record

namespace TextGrammar

inductive Outcome (α : Type) where
  | success (value : α) (next : Cursor)
  | failure (f : Failure)
deriving DecidableEq, Repr

namespace Outcome

variable {α : Type}

/-- Where an attempt ended. -/
def ending : Outcome α → Ending
  | success _ next => .success next.offset
  | failure f => .failure f.position

/-- The record of how an attempt that began at `start` ended. -/
def summary (start : Nat) : Outcome α → Record
  | success _ next => .succeeded start next.offset
  | failure f => .failed f.position start f.message

end Outcome

inductive Breakdown where
  | splitCharacter
  | nestingTooDeep
  | endlessRepetition
deriving DecidableEq, Repr

abbrev Run (α : Type) := Except Breakdown (Outcome α × List Record)

namespace Run

variable {α β γ : Type}

def success (value : α) (next : Cursor) : Run α := .ok (.success value next, [])

def failure (f : Failure) : Run α := .ok (.failure f, [])

def failAt (c : Cursor) (cause : Cause) : Run α := failure ⟨cause, c.location⟩

/-- A run with records made before it. -/
def after (log : List Record) : Run α → Run α
  | .ok (o, log') => .ok (o, log ++ log')
  | .error b => .error b

/-- A run that goes on as its outcome says. -/
def resolve (r : Run α) (onSuccess : α → Cursor → Run β) (onFailure : Failure → Run β) :
    Run β :=
  match r with
  | .ok (.success v c, log) => after log (onSuccess v c)
  | .ok (.failure f, log) => after log (onFailure f)
  | .error b => .error b

/-- A run that goes on after success. -/
def andThen (r : Run α) (next : α → Cursor → Run β) : Run β := r.resolve next failure

/-- A run with one more record, made at its end. -/
def record (r : Run α) (f : Outcome α → Record) : Run α :=
  match r with
  | .ok (o, log) => .ok (o, log ++ [f o])
  | .error b => .error b

/-- Go on with what has been read; reading inside a character is a breakdown. -/
def reading (o : Option γ) (next : γ → Run α) : Run α :=
  match o with
  | some x => next x
  | none => .error .splitCharacter

theorem after_nil (r : Run α) : after [] r = r := by
  rcases r with b | ⟨o, log⟩ <;> rfl

theorem after_after (l m : List Record) (r : Run α) : after l (after m r) = after (l ++ m) r := by
  rcases r with b | ⟨o, log⟩
  · rfl
  · simp only [after, List.append_assoc]

theorem after_success (l : List Record) (v : α) (c : Cursor) :
    after l (success v c) = .ok (.success v c, l) := by
  rw [success, after, List.append_nil]

theorem after_failure (l : List Record) (f : Failure) :
    after l (failure f : Run α) = .ok (.failure f, l) := by
  rw [failure, after, List.append_nil]

theorem resolve_success (v : α) (c : Cursor) (f : α → Cursor → Run β) (g : Failure → Run β) :
    resolve (success v c) f g = f v c := after_nil _

theorem resolve_failure (e : Failure) (f : α → Cursor → Run β) (g : Failure → Run β) :
    resolve (failure e) f g = g e := after_nil _

theorem resolve_after (l : List Record) (r : Run α) (f : α → Cursor → Run β)
    (g : Failure → Run β) : resolve (after l r) f g = after l (resolve r f g) := by
  rcases r with b | ⟨o, log⟩
  · rfl
  · cases o with
    | success v c => exact (after_after l log (f v c)).symm
    | failure e => exact (after_after l log (g e)).symm

theorem resolve_resolve (r : Run α) (f : α → Cursor → Run β) (g : Failure → Run β)
    (f' : β → Cursor → Run γ) (g' : Failure → Run γ) :
    (r.resolve f g).resolve f' g' =
      r.resolve (fun v c => (f v c).resolve f' g') (fun e => (g e).resolve f' g') := by
  rcases r with b | ⟨o, log⟩
  · rfl
  · cases o with
    | success v c => exact resolve_after log (f v c) f' g'
    | failure e => exact resolve_after log (g e) f' g'

theorem resolve_of_success {r : Run α} {v : α} {c : Cursor} {log : List Record}
    (h : r = .ok (.success v c, log)) (f : α → Cursor → Run β) (g : Failure → Run β) :
    r.resolve f g = after log (f v c) := by
  rw [h, resolve]

theorem resolve_of_failure {r : Run α} {e : Failure} {log : List Record}
    (h : r = .ok (.failure e, log)) (f : α → Cursor → Run β) (g : Failure → Run β) :
    r.resolve f g = after log (g e) := by
  rw [h, resolve]

theorem andThen_of_success {r : Run α} {v : α} {c : Cursor} {log : List Record}
    (h : r = .ok (.success v c, log)) (f : α → Cursor → Run β) :
    r.andThen f = after log (f v c) := resolve_of_success h f failure

theorem andThen_success (v : α) (c : Cursor) (f : α → Cursor → Run β) :
    (success v c).andThen f = f v c := resolve_success v c f failure

theorem andThen_failure (e : Failure) (f : α → Cursor → Run β) :
    (failure e).andThen f = failure e := resolve_failure e f failure

end Run
end TextGrammar
