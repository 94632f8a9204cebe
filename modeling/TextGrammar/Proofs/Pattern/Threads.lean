/-
The threads find what is preferred.

The programs of the built-in classes go round with two threads, one that waits for another
character of the set and one that accepts, so they match all characters up to the first outside the
set.  Programs without a loop wait for one character after the other: see `Waits`.  In both cases
that is the preferred match.
-/
import TextGrammar.Engine.Threads
import TextGrammar.Proofs.Pattern.Preference

namespace TextGrammar
namespace Matching

variable {program : Array Instr} {s : CharSet}

/-- A single thread that waits goes on behind the character it waits for. -/
theorem step_singleton {pc : Nat} {threads : List Nat} (h : program[pc]? = some (.consume s))
    (hfollow : ∀ sight,
      (follow1 program sight (pc + 1) (unreached program)).threads.reverse = threads)
    (c : Char) (sight : Sight) :
    step program c sight [pc] = if s.contains c then threads else [] := by
  simp only [step, List.foldl_cons, List.foldl_nil, h]
  by_cases hc : s.contains c = true
  · rw [if_pos hc, if_pos hc, hfollow]
  · rw [if_neg hc, if_neg hc]
    rfl

theorem foldl_eq_of_forall {α β : Type} {f : β → α → β} {l : List α}
    (h : ∀ a ∈ l, ∀ b, f b a = b) (b : β) : l.foldl f b = b := by
  induction l with
  | nil => rfl
  | cons a l ih =>
    obtain ⟨ha, hl⟩ := List.forall_mem_cons.mp h
    rw [List.foldl_cons, ha, ih hl]

/-- Threads that wait for other characters are gone. -/
theorem step_eq_nil {threads : List Nat} {c : Char}
    (h : ∀ pc ∈ threads, ∀ s, program[pc]? = some (.consume s) → s.contains c = false)
    (sight : Sight) : step program c sight threads = [] := by
  refine congrArg (fun r : Reached => r.threads.reverse)
    (foldl_eq_of_forall (fun pc hpc r => ?_) (unreached program))
  split
  · next s hs => rw [h pc hpc s hs, if_neg Bool.false_ne_true]
  · rfl

theorem scan_nil (program : Array Instr) (t : Text) (count : Nat) (best : Option Nat) :
    scan program t [] count best = best := by
  cases t <;> rfl

/-! ## Threads of a repeated set -/

/-- A place with threads `a`, which waits for a character of `s`, and `b`, which accepts. -/
structure Repeats (program : Array Instr) (s : CharSet) (a b : Nat) : Prop where
  waits : accepts program a = false
  accepts : accepts program b = true
  step_eq (c : Char) (sight : Sight) :
    step program c sight [a] = if s.contains c then [a, b] else []

/-- From there the match goes on to the first character outside the set. -/
theorem Repeats.scan_eq {a b : Nat} (h : Repeats program s a b) (t : Text) (count : Nat)
    (best : Option Nat) :
    scan program t [a, b] count best = some (count + (t.takeWhile s.contains).length) := by
  have hbetter : ([a, b].takeWhile fun pc => !Matching.accepts program pc) = [a] := by
    simp [h.waits, h.accepts]
  induction t generalizing count best with
  | nil =>
    simp only [scan, hbetter]
    rfl
  | cons c t ih =>
    have hlt : [a].length < [a, b].length := Nat.lt_succ_self 1
    simp only [scan, hbetter, hlt, if_true, h.step_eq]
    by_cases hc : s.contains c = true
    · rw [if_pos hc, ih, List.takeWhile_cons_of_pos hc, List.length_cons]
      congr 1
      omega
    · rw [if_neg hc, scan_nil, List.takeWhile_cons_of_neg hc]
      rfl

theorem take_length_takeWhile (f : Char → Bool) (t : Text) :
    t.take (t.takeWhile f).length = t.takeWhile f :=
  List.prefix_iff_eq_take.mp (List.takeWhile_prefix f) |>.symm

open Expression (leading)

/-- Programs that wait for one character and then repeat a set. -/
theorem map_scan_leading {first : CharSet} {a b : Nat} (h : Repeats program s a b)
    (hwaits : accepts program 0 = false)
    (hstep : ∀ c sight, step program c sight [0] = if first.contains c then [a, b] else [])
    (t : Text) : (scan program t [0] 0 none).map t.take = leading first s t := by
  have hbetter : ([0].takeWhile fun pc => !accepts program pc) = [0] := by simp [hwaits]
  cases t with
  | nil => simp only [scan, hbetter, Nat.lt_irrefl, if_false, leading, Option.map_none]
  | cons c t =>
    simp only [scan, hbetter, Nat.lt_irrefl, if_false, hstep, leading]
    by_cases hc : first.contains c = true
    · rw [if_pos hc, if_pos hc, h.scan_eq, Option.map_some, Nat.add_comm, List.take_succ_cons,
        take_length_takeWhile]
    · rw [if_neg hc, if_neg hc, scan_nil, Option.map_none]

/-! ## Threads that wait for one character after the other -/

/-- The text begins with a character of each of the sets, in their order. -/
def begins : List CharSet → Text → Bool
  | [], _ => true
  | s :: w, c :: t => s.contains c && begins w t
  | _ :: _, [] => false

theorem begins_map_single {w t : Text} : begins (w.map .single) t = true ↔ w <+: t := by
  induction w generalizing t with
  | nil => simp [begins]
  | cons c w ih =>
    cases t with
    | nil => simp [begins]
    | cons d t =>
      rw [List.map_cons, begins, Bool.and_eq_true, CharSet.contains_single, decide_eq_true_iff,
        ih, List.cons_prefix_cons, eq_comm]

/-- A thread that waits for a character of each of the sets, one after the other, and then
accepts. -/
inductive Waits (program : Array Instr) : Nat → List CharSet → Prop where
  | accept {pc : Nat} : accepts program pc = true → Waits program pc []
  | step {pc next : Nat} {s : CharSet} {w : List CharSet} : accepts program pc = false →
    program[pc]? = some (.consume s) →
    (∀ sight, (follow1 program sight (pc + 1) (unreached program)).threads.reverse = [next]) →
    Waits program next w → Waits program pc (s :: w)

theorem Waits.scan_eq {pc : Nat} {w : List CharSet} (h : Waits program pc w) (t : Text)
    (count : Nat) :
    scan program t [pc] count none = if begins w t then some (count + w.length) else none := by
  induction h generalizing t count with
  | @accept pc hpc =>
    have hbetter : [pc].takeWhile (fun pc => !accepts program pc) = [] := by simp [hpc]
    cases t <;> simp [scan, hbetter, begins]
  | @step pc next s w hpc hconsume hfollow _ ih =>
    have hbetter : [pc].takeWhile (fun pc => !accepts program pc) = [pc] := by simp [hpc]
    cases t with
    | nil => simp only [scan, hbetter, Nat.lt_irrefl, if_false, begins, Bool.false_eq_true]
    | cons c t =>
      simp only [scan, hbetter, Nat.lt_irrefl, if_false, begins,
        step_singleton hconsume hfollow]
      by_cases hc : s.contains c = true
      · have hlength : count + 1 + w.length = count + (w.length + 1) := by omega
        simp only [hc, if_true, ih, Bool.true_and, List.length_cons, hlength]
      · simp only [hc, Bool.false_eq_true, if_false, scan_nil, Bool.false_and]

end Matching

namespace Engine

open Matching Expression Pattern

theorem leftmostFirst_threads {source : String} {e : Expression}
    (he : Expression.ofSource? source.toList = some e)
    (h : ∀ before t, (Matcher.threads e).matched? before t = e.preferred? before t) :
    threads.LeftmostFirst source := by
  intro x e' hx he'
  obtain rfl := Option.some.inj (he.symm.trans he')
  obtain ⟨e', he', rfl, -⟩ := exists_program_of_compileThreads? hx
  obtain rfl := Option.some.inj (he.symm.trans he')
  exact h

/-! ## The built-in classes -/

theorem program_anyRun (s : CharSet) :
    (anyRun s).program = #[.fork 1 3, .consume s, .jump 0, .accept] := rfl

theorem program_run (s : CharSet) : (run s).program = #[.consume s, .fork 0 2, .accept] := rfl

theorem program_identifier : BuiltIn.identifier.expression.program =
    #[.consume initialSet, .fork 2 4, .consume .asciiWord, .jump 1, .accept] := rfl

theorem repeats_anyRun (s : CharSet) : Repeats (anyRun s).program s 1 3 where
  waits := rfl
  accepts := rfl
  step_eq := step_singleton rfl fun sight => by
    simp [program_anyRun, follow1, follow, unreached]

theorem repeats_run (s : CharSet) : Repeats (run s).program s 0 2 where
  waits := rfl
  accepts := rfl
  step_eq := step_singleton rfl fun sight => by
    simp [program_run, follow1, follow, unreached]

theorem repeats_identifier : Repeats BuiltIn.identifier.expression.program .asciiWord 2 4 where
  waits := rfl
  accepts := rfl
  step_eq := step_singleton rfl fun sight => by
    simp [program_identifier, follow1, follow, unreached]

theorem matched?_anyRun (s : CharSet) (before : Option Char) (t : Text) :
    (Matcher.threads (anyRun s)).matched? before t = (anyRun s).preferred? before t := by
  have hinitial (sight : Sight) : initial (anyRun s).program sight = [1, 3] := by
    simp [program_anyRun, initial, follow1, follow, unreached]
  rw [preferred?_anyRun]
  simp only [Matcher.threads, matchLength?, hinitial, (repeats_anyRun s).scan_eq t 0 none,
    Option.map_some, Nat.zero_add, take_length_takeWhile]

theorem matched?_run (s : CharSet) (before : Option Char) (t : Text) :
    (Matcher.threads (run s)).matched? before t = (run s).preferred? before t := by
  have hinitial (sight : Sight) : initial (run s).program sight = [0] := by
    simp [program_run, initial, follow1, follow, unreached]
  rw [preferred?_run]
  simp only [Matcher.threads, matchLength?, hinitial]
  exact map_scan_leading (repeats_run s) rfl (repeats_run s).step_eq t

theorem matched?_identifier (before : Option Char) (t : Text) :
    (Matcher.threads BuiltIn.identifier.expression).matched? before t =
      BuiltIn.identifier.expression.preferred? before t := by
  have hinitial (sight : Sight) : initial BuiltIn.identifier.expression.program sight = [0] := by
    simp [program_identifier, initial, follow1, follow, unreached]
  have hstep : ∀ c sight, step BuiltIn.identifier.expression.program c sight [0] =
      if initialSet.contains c then [2, 4] else [] := step_singleton rfl fun sight => by
    simp [program_identifier, follow1, follow, unreached]
  refine Eq.trans ?_ (preferred?_seq_anyRun initialSet .asciiWord before t).symm
  simp only [Matcher.threads, matchLength?, hinitial]
  exact map_scan_leading repeats_identifier rfl hstep t

theorem leftmostFirst_threads_builtIn (l : BuiltIn) : threads.LeftmostFirst l.source := by
  refine leftmostFirst_threads l.ofSource?_source ?_
  cases l with
  | digits => exact matched?_run digitSet
  | letters => exact matched?_run letterSet
  | alphanumeric => exact matched?_run alphanumericSet
  | identifier => exact matched?_identifier
  | whitespace => exact matched?_anyRun .blank

end Engine
end TextGrammar
