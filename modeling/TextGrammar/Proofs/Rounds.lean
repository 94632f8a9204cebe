/-
Rounds of a loop.

The bound of a loop is the number of bytes left and one more.  As every round but the last
moves on, the bound is never met, and more of it changes nothing.  So a loop is one round
and then the same loop from where the round ended: `exhaust_eq_resolve`.  The three ways in
which a round can end have a lemma each.
-/
import TextGrammar.Proofs.Safety

namespace TextGrammar

variable {α β : Type}

/-- What follows a success only has to be known for successes of the run. -/
theorem Run.resolve_congr {r : Run α} {f f' : α → Cursor → Run β} {g : Failure → Run β}
    (h : ∀ v next, r.Yields v next → f v next = f' v next) : r.resolve f g = r.resolve f' g := by
  rcases r with b | ⟨o, log⟩
  · rfl
  · cases o with
    | success v next => exact congrArg (Run.after log) (h v next ⟨log, rfl⟩)
    | failure e => rfl

namespace Recogniser

variable {ended : Nat → Record} {p item : Recogniser α} {q : Recogniser β} {c next last : Cursor}
  {v : α} {vs : List α} {f : Failure} {log log' : List Record}

/-- A loop with a bound that is enough at every place. -/
def exhaust (ended : Nat → Record) (item : Recogniser α) : Recogniser (List α) := fun c =>
  loop ended item (c.remaining + 1) c

theorem many_eq_exhaust (p : Recogniser α) : many p = exhaust .repetitionEnded p :=
  funext (many_eq_loop p)

theorem sepBy_eq_resolve (p : Recogniser α) (q : Recogniser β) (c : Cursor) :
    sepBy p q c = (p c).resolve
      (fun v next => (exhaust .listEnded (separated p q) next).andThen fun vs last =>
        Run.success (v :: vs) last)
      (fun _ => Run.success [] c) := by
  simp only [sepBy, moreItems_eq_loop, exhaust]

/-- All bounds above the number of bytes left are alike. -/
theorem loop_eq_loop (hitem : item.Forward) (hc : c.OnBoundary) {m n : Nat}
    (hm : c.remaining < m) (hn : c.remaining < n) :
    loop ended item m c = loop ended item n c := by
  induction m generalizing n c with
  | zero => exact absurd hm (Nat.not_lt_zero _)
  | succ m ih =>
    cases n with
    | zero => exact absurd hn (Nat.not_lt_zero _)
    | succ n =>
      rw [loop_succ, loop_succ]
      refine Run.resolve_congr fun v next hy => ?_
      rw [round, round]
      by_cases hzero : next.offset = c.offset
      · rw [if_pos hzero, if_pos hzero]
      · have hreach := hitem c v next hc hy
        have hle : c.offset ≤ next.offset := hreach.le
        have hrem := hreach.remaining_lt (by omega)
        have hbounds : loop ended item m next = loop ended item n next :=
          ih hreach.onBoundary (by omega) (by omega)
        rw [if_neg hzero, if_neg hzero, hbounds]

/-- One round, and the loop from where it ended. -/
theorem exhaust_eq_resolve (hitem : item.Forward) (hc : c.OnBoundary) :
    exhaust ended item c = (item c).resolve
      (fun v next =>
        if next.offset = c.offset then Run.after [ended c.offset] (Run.success [v] c)
        else (exhaust ended item next).andThen fun vs last => Run.success (v :: vs) last)
      (fun _ => Run.success [] c) := by
  rw [exhaust, loop_succ]
  refine Run.resolve_congr fun v next hy => ?_
  rw [round]
  by_cases hzero : next.offset = c.offset
  · rw [if_pos hzero, if_pos hzero]
  · have hreach := hitem c v next hc hy
    have hle : c.offset ≤ next.offset := hreach.le
    have hrem := hreach.remaining_lt (by omega)
    rw [if_neg hzero, if_neg hzero, exhaust,
      loop_eq_loop hitem hreach.onBoundary hrem (Nat.lt_succ_self _)]

/-! ## How a round ends -/

theorem exhaust_of_failure (h : item c = .ok (.failure f, log)) :
    exhaust ended item c = .ok (.success [] c, log) := by
  rw [exhaust, loop_succ, Run.resolve_of_failure h, Run.after_success]

theorem exhaust_of_stay (h : item c = .ok (.success v next, log))
    (hstay : next.offset = c.offset) :
    exhaust ended item c = .ok (.success [v] c, log ++ [ended c.offset]) := by
  rw [exhaust, loop_succ, Run.resolve_of_success h, round, if_pos hstay, Run.after_after,
    Run.after_success]

theorem exhaust_of_move (hitem : item.Forward) (hc : c.OnBoundary)
    (h : item c = .ok (.success v next, log)) (hmove : next.offset ≠ c.offset)
    (hrest : exhaust ended item next = .ok (.success vs last, log')) :
    exhaust ended item c = .ok (.success (v :: vs) last, log ++ log') := by
  rw [exhaust_eq_resolve hitem hc, Run.resolve_of_success h, if_neg hmove,
    Run.andThen_of_success hrest, Run.after_after, Run.after_success]

end Recogniser
end TextGrammar
