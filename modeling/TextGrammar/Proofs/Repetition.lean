/-
The loop that repetitions and lists share.

A repetition and the tail of a separated list go on in the same way: an item after the
other until one fails or consumes nothing.  They differ in what an item is and in the
record of an item that consumed nothing.
-/
import TextGrammar.Recogniser

namespace TextGrammar
namespace Recogniser

variable {α β : Type}

/-- Collect items for at most the given number of times.  `ended` is the record of an
item that consumed nothing. -/
def loop (ended : Nat → Record) (item : Recogniser α) : Nat → Recogniser (List α)
  | 0, _ => .error .endlessRepetition
  | n + 1, c =>
    (item c).resolve
      (fun v next =>
        if next.offset = c.offset then Run.after [ended c.offset] (Run.success [v] c)
        else (loop ended item n next).andThen fun vs last => Run.success (v :: vs) last)
      (fun _ => Run.success [] c)

/-- What follows an item that has been found at `c` with `next` behind it. -/
def round (ended : Nat → Record) (item : Recogniser α) (fuel : Nat) (c : Cursor) (v : α)
    (next : Cursor) : Run (List α) :=
  if next.offset = c.offset then Run.after [ended c.offset] (Run.success [v] c)
  else (loop ended item fuel next).andThen fun vs last => Run.success (v :: vs) last

/-- A separator and then an item, for the value of the item. -/
def separated (p : Recogniser α) (sep : Recogniser β) : Recogniser α := fun c =>
  (sep c).andThen fun _ item => p item

theorem repeated_eq_loop (p : Recogniser α) : repeated p = loop .repetitionEnded p := by
  funext n
  induction n with
  | zero => rfl
  | succ n ih =>
    funext c
    simp only [repeated, loop, ih]

theorem moreItems_eq_loop (p : Recogniser α) (sep : Recogniser β) :
    moreItems p sep = loop .listEnded (separated p sep) := by
  funext n
  induction n with
  | zero => rfl
  | succ n ih =>
    funext c
    simp only [moreItems, loop, ih, separated]

theorem loop_succ (ended : Nat → Record) (item : Recogniser α) (fuel : Nat) (c : Cursor) :
    loop ended item (fuel + 1) c =
      (item c).resolve (round ended item fuel c) fun _ => Run.success [] c := rfl

/-- A list with an item is not empty, so a round is all there is to a repetition that needs
one. -/
theorem many1_eq_resolve (p : Recogniser α) (c : Cursor) :
    many1 p c = (p c).resolve (round .repetitionEnded p c.remaining c)
      fun _ => Run.failAt c .expectedAtLeastOne := by
  rw [many1, many, repeated_eq_loop, loop_succ, Run.andThen, Run.resolve_resolve]
  congr 1
  funext v next
  rw [round]
  by_cases hzero : next.offset = c.offset
  · rw [if_pos hzero, Run.resolve_after, Run.resolve_success]
    rfl
  · rw [if_neg hzero, Run.andThen, Run.resolve_resolve]
    congr 1

theorem many_eq_loop (p : Recogniser α) (c : Cursor) :
    many p c = loop .repetitionEnded p (c.remaining + 1) c := by
  rw [many, repeated_eq_loop]

end Recogniser
end TextGrammar
