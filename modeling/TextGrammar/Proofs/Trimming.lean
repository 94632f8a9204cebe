/-
White space around a parser.

An engine that matches leftmost and first matches white space up to the first character that is
none, wherever the match begins.  So a trimmed parser runs from the same place, whichever part of
the white space in front of it has been passed already, and the place behind it is clear of white
space.  The match may be empty but does not fail: what is to be done after a failed match is never
done.
-/
import TextGrammar.Proofs.CharacterClass
import TextGrammar.Proofs.Log
import TextGrammar.Proofs.Pattern.Threads
import TextGrammar.Proofs.Sequencing
import TextGrammar.Proofs.Trail

namespace TextGrammar

variable {α : Type}

/-- Moving on behind a success does not make it a failure. -/
theorem Run.andThen_success_eq_failure_iff {r : Run α} {move : Cursor → Cursor} {f : Failure}
    {log : List Record} :
    (r.andThen fun v next => success v (move next)) = .ok (.failure f, log) ↔
      r = .ok (.failure f, log) := by
  rw [andThen, resolve_eq_ok_iff]
  constructor
  · rintro (⟨v, next, l, m, -, h, -⟩ | ⟨e, l, m, hr, h, rfl⟩)
    · cases h
    · cases h
      rw [hr, List.append_nil]
  · intro hr
    exact .inr ⟨f, log, [], hr, rfl, (List.append_nil log).symm⟩

namespace Recogniser

open Run Unicode

variable {p : Recogniser α} {c : Cursor} {white : Pattern}

/-- White space is found everywhere, though it may be empty. -/
theorem exists_whitespace (hwhite : white.MatchesAll .blank) (hc : c.OnBoundary) :
    ∃ w, pattern white c = success w (c.past isBlank) ∧
      c.LongestRun isBlank (c.past isBlank) w := by
  obtain ⟨s, hrest⟩ := hc.exists_rest?
  refine ⟨s.takeWhile isBlank, ?_, Cursor.longestRun_takeWhile hrest⟩
  rw [Cursor.past_of_rest? hrest]
  exact pattern_eq_success hrest fun before => hwhite before s

theorem blanks_eq (hwhite : white.MatchesAll .blank) (hc : c.OnBoundary) :
    blanks white c = success () (c.past isBlank) := by
  obtain ⟨w, hmatch, -⟩ := exists_whitespace hwhite hc
  rw [blanks, hmatch, resolve_success]

/-- A trimmed parser runs behind the white space, and moves past the white space behind it. -/
theorem trim_eq (hwhite : white.MatchesAll .blank) (hp : p.Forward) (hc : c.OnBoundary) :
    trim white p c = (p (c.past isBlank)).andThen fun v next => success v (next.past isBlank) := by
  obtain ⟨w, hrun⟩ := hc.exists_longestRun isBlank
  rw [trim, blanks_eq hwhite hc, andThen_success]
  refine resolve_congr fun v next hy => ?_
  have hnext := (hp _ v next hrun.reaches.onBoundary hy).onBoundary
  rw [blanks_eq hwhite hnext, andThen_success]

/-- The same from the match of white space. -/
theorem whitespace_followedBy_eq (hwhite : white.MatchesAll .blank) (hp : p.Forward)
    (hc : c.OnBoundary) :
    (((pattern white c).andThen fun _ => p).andThen fun v next =>
      (pattern white next).andThen fun _ last => success v last) = trim white p c := by
  obtain ⟨w, hmatch, hrun⟩ := exists_whitespace hwhite hc
  rw [trim_eq hwhite hp hc, hmatch, andThen_success]
  refine resolve_congr fun v next hy => ?_
  obtain ⟨w', hmatch', -⟩ :=
    exists_whitespace hwhite (hp _ v next hrun.reaches.onBoundary hy).onBoundary
  rw [hmatch', andThen_success]

end Recogniser

namespace Parser

open Unicode

variable {S : Signature} {c : Cursor}

theorem parseWithin_keepLeft_whitespace (g : Grammar S) (depth : Nat) (p : Parser S α) :
    parseWithin g depth (keepLeft (keepRight whitespace p) whitespace) = fun c =>
      ((Recogniser.pattern (S.engine.leaf .whitespace) c).andThen fun _ =>
        parseWithin g depth p).andThen fun v next =>
          (Recogniser.pattern (S.engine.leaf .whitespace) next).andThen fun _ last =>
            Run.success v last := by
  cases depth <;> rfl

/-- What a trimmed parser does is given by where white space ends. -/
theorem parseWithin_trim_eq (hE : S.engine.LeftmostFirst "\\s*") (g : Grammar S) (depth : Nat)
    (p : Parser S α) (hc : c.OnBoundary) :
    parseWithin g depth (trim p) c =
      (parseWithin g depth p (c.past isBlank)).andThen fun v next =>
        Run.success v (next.past isBlank) := by
  rw [parseWithin_trim, Recogniser.trim_eq (Engine.matchesAll_whitespace hE)
    (forward_parseWithin g depth p) hc]

theorem parseWithin_trim_trim (hE : S.engine.LeftmostFirst "\\s*") (g : Grammar S) (depth : Nat)
    (p : Parser S α) (hc : c.OnBoundary) :
    parseWithin g depth (trim (trim p)) c = parseWithin g depth (trim p) c := by
  obtain ⟨w, hrun⟩ := hc.exists_longestRun isBlank
  have hfirst := hrun.reaches.onBoundary
  rw [parseWithin_trim_eq hE g depth (trim p) hc, parseWithin_trim_eq hE g depth p hfirst,
    parseWithin_trim_eq hE g depth p hc, Cursor.past_past hc, Run.andThen_andThen]
  refine Run.resolve_congr fun v next hy => ?_
  have hnext := (forward_parseWithin g depth p _ v next hfirst hy).onBoundary
  rw [Run.andThen_success, Cursor.past_past hnext]

/-- With an engine that matches white space leftmost and first, a trimmed parser ignores the white
space around it.  From every place that is reached over
white space only it runs in the same way; trimming it again changes nothing; and it is the parser
between two matches of white space, each of which succeeds wherever parsing may have got to.  The
place behind a success is clear of white space, and a failure is the parser's own at the first
place that is. -/
theorem trim_ignores_whitespace (hE : S.engine.LeftmostFirst "\\s*") (g : Grammar S) (depth : Nat)
    (p : Parser S α) (hc : c.OnBoundary) :
    (∀ d w, c.Passes isBlank d w →
      parseWithin g depth (trim p) d = parseWithin g depth (trim p) c) ∧
    parseWithin g depth (trim (trim p)) c = parseWithin g depth (trim p) c ∧
    parseWithin g depth (trim p) c =
      parseWithin g depth (keepLeft (keepRight whitespace p) whitespace) c ∧
    (∀ d, c.Reaches d.location →
      ∃ w next, parseWithin g depth whitespace d = .ok (.success w next, [])) ∧
    (∀ v last log, parseWithin g depth (trim p) c = .ok (.success v last, log) →
      last.ClearOf isBlank) ∧
    ∃ first w, c.LongestRun isBlank first w ∧
      ∀ f log, parseWithin g depth (trim p) c = .ok (.failure f, log) ↔
        parseWithin g depth p first = .ok (.failure f, log) := by
  obtain ⟨w, hrun⟩ := hc.exists_longestRun isBlank
  have hwhite := Engine.matchesAll_whitespace hE
  have htrim := parseWithin_trim_eq hE g depth p hc
  refine ⟨?_, parseWithin_trim_trim hE g depth p hc, ?_, ?_, ?_, c.past isBlank, w, hrun, ?_⟩
  · intro d w' hpasses
    rw [parseWithin_trim_eq hE g depth p hpasses.reaches.onBoundary, hpasses.past_eq hc, htrim]
  · rw [parseWithin_keepLeft_whitespace, parseWithin_trim]
    exact (Recogniser.whitespace_followedBy_eq hwhite (forward_parseWithin g depth p) hc).symm
  · intro d hreach
    obtain ⟨w', hmatch, -⟩ := Recogniser.exists_whitespace hwhite hreach.onBoundary
    refine ⟨w', d.past isBlank, ?_⟩
    rw [whitespace, parseWithin_pattern]
    exact hmatch
  · intro v last log h
    rw [htrim] at h
    obtain ⟨w', next, hy, hlast⟩ := Run.exists_of_yields_andThen ⟨log, h⟩
    obtain ⟨-, rfl⟩ := Run.yields_success hlast
    have hreach := forward_parseWithin g depth p _ w' next hrun.reaches.onBoundary hy
    obtain ⟨t, hbehind⟩ := hreach.onBoundary.exists_longestRun isBlank
    exact hbehind.clear
  · intro f log
    rw [htrim, Run.andThen_success_eq_failure_iff]

/-- White space of one byte and of three in front of a nest.  It is read in the same way from
between the two, and in front of a nest that is not closed the failure is that of the nest. -/
theorem nested_trimmed :
    Nested.signature.engine.LeftmostFirst "\\s*" ∧
    (Cursor.start [' ', '\u3000', '(', 'x', ')', ' ', '!']).OnBoundary ∧
    (Cursor.start [' ', '\u3000', '(', 'x', ')', ' ', '!']).Passes isBlank
      ⟨[' ', '\u3000', '(', 'x', ')', ' ', '!'], 1⟩ [' '] ∧
    parseWithin Nested.grammar 3 (trim (rule ())) ⟨[' ', '\u3000', '(', 'x', ')', ' ', '!'], 1⟩ =
      .ok (.success (1 : Nat) ⟨[' ', '\u3000', '(', 'x', ')', ' ', '!'], 8⟩, []) ∧
    (Cursor.mk [' ', '\u3000', '(', 'x', ')', ' ', '!'] 8).ClearOf isBlank ∧
    ∃ first w, (Cursor.start [' ', '\u3000', '(', 'x']).LongestRun isBlank first w ∧
      parseWithin Nested.grammar 3 (rule ()) first =
        .ok (.failure ⟨.expectedLiteral ['x'], ⟨[' ', '\u3000', '(', 'x'], 4⟩⟩, []) := by
  have hc : (Cursor.start [' ', '\u3000', '(', 'x', ')', ' ', '!']).OnBoundary :=
    Text.isBoundary_zero _
  have hpasses : (Cursor.start [' ', '\u3000', '(', 'x', ')', ' ', '!']).Passes isBlank
      ⟨[' ', '\u3000', '(', 'x', ')', ' ', '!'], 1⟩ [' '] :=
    Cursor.passes_advance (t := [' ']) rfl (List.forall_mem_singleton.mpr rfl)
  have hE : Nested.signature.engine.LeftmostFirst "\\s*" :=
    Engine.leftmostFirst_threads_builtIn .whitespace
  obtain ⟨hsame, -, -, -, hclear, -⟩ := trim_ignores_whitespace hE Nested.grammar 3 (rule ()) hc
  have hc' : (Cursor.start [' ', '\u3000', '(', 'x']).OnBoundary := Text.isBoundary_zero _
  obtain ⟨-, -, -, -, -, first, w, hrun, hfailure⟩ :=
    trim_ignores_whitespace hE Nested.grammar 3 (rule ()) hc'
  exact ⟨hE, hc, hpasses, hsame _ _ hpasses, hclear (1 : Nat) _ [] rfl, first, w, hrun,
    (hfailure _ _).mp rfl⟩

end Parser
end TextGrammar
