/-
The engine that advances threads.

It runs the program of an expression with all threads at once, so that the work per character is
bounded by the size of the program.  Counted repetitions multiply, and a short source text can ask
for a program that is too large to be kept: such a text does not compile.
-/
import TextGrammar.Engine
import TextGrammar.Pattern.Matching

namespace TextGrammar

/-- The threads of an expression's program. -/
def Matcher.threads (e : Expression) : Matcher where
  matched? before t := (Matching.matchLength? e.program before t).map t.take
  matched?_prefix := by
    intro before t m h
    obtain ⟨k, -, rfl⟩ := Option.map_eq_some_iff.mp h
    exact List.take_prefix k t

namespace Engine

/-- The most that a program may weigh: ten mebibytes, at 32 bytes for an instruction or a range. -/
def weightLimit : Nat := 10485760 / 32

def compileThreads? (source : String) : Option Matcher :=
  ((Expression.ofSource? source.toList).filter (·.weight ≤ weightLimit)).map .threads

theorem compileThreads?_eq_some {source : String} {e : Expression}
    (he : Expression.ofSource? source.toList = some e) (hweight : e.weight ≤ weightLimit) :
    compileThreads? source = some (.threads e) := by
  rw [compileThreads?, he, Option.filter_some, decide_eq_true hweight]
  rfl

def threads : Engine where
  compile? := compileThreads?
  builtIn l := .threads l.expression
  compile?_builtIn := by
    intro l
    refine compileThreads?_eq_some l.ofSource?_source ?_
    cases l <;> decide

theorem pattern?_threads {source : String} {e : Expression}
    (he : Expression.ofSource? source.toList = some e) (hweight : e.weight ≤ weightLimit) :
    threads.pattern? source = some ⟨source, .threads e⟩ :=
  congrArg (Option.map fun x => Pattern.mk source x) (compileThreads?_eq_some he hweight)

/-- No program is larger than the limit, but for the instruction that accepts. -/
theorem exists_program_of_compileThreads? {source : String} {x : Matcher}
    (h : compileThreads? source = some x) :
    ∃ e, Expression.ofSource? source.toList = some e ∧ x = .threads e ∧
      e.program.size ≤ weightLimit + 1 := by
  obtain ⟨e, he, rfl⟩ := Option.map_eq_some_iff.mp h
  obtain ⟨he, hweight⟩ := Option.filter_eq_some_iff.mp he
  refine ⟨e, he, rfl, ?_⟩
  rw [Expression.size_program]
  exact Nat.succ_le_succ (Nat.le_trans e.size_le_weight (of_decide_eq_true hweight))

end Engine

/-- The pattern with a given source text, run by threads. -/
def Pattern.compile? (source : String) : Option Pattern := Engine.threads.pattern? source

end TextGrammar
