/-
Scanning for a place where a parser succeeds.

`takeUntil stop` reads character by character: nothing where `stop` succeeds or the text ends,
and otherwise a character and then what it reads behind it (`takeUntil_cons`).  A repetition of
single characters with `stop` not ahead goes the same way, and so both read up to the first
place where `stop` succeeds.  They differ at the end of the text, where only the repetition
tries `stop`; but there is nothing left to read.
-/
import TextGrammar.Proofs.Pattern.Threads
import TextGrammar.Proofs.Taking
import TextGrammar.Proofs.Trail

namespace TextGrammar

variable {S : Signature} {α : Type}

/-! ## Any character -/

/-- The expression of any character, whichever it is. -/
def Expression.anyChar : Expression := .set .all

theorem Expression.ofSource?_anyChar :
    Expression.ofSource? "(?s).".toList = some Expression.anyChar := by decide +kernel

/-- The pattern matches one character, whichever it is. -/
def Pattern.MatchesAny (x : Pattern) : Prop :=
  ∀ before t, x.matched? before t = t.head?.map ([·])

namespace Engine

open Matching

theorem preferred?_anyChar (before : Option Char) (t : Text) :
    Expression.anyChar.preferred? before t = t.head?.map ([·]) := by
  cases t with
  | nil => rfl
  | cons c t =>
    refine Expression.preferred?_eq_some (m := [c]) rfl ?_
    rw [Expression.anyChar, Expression.ends, Place.passChar, if_pos (CharSet.contains_all c)]
    rfl

theorem matchesAny {E : Engine} (hE : E.LeftmostFirst "(?s).") {x : Pattern}
    (hx : E.pattern? "(?s)." = some x) : x.MatchesAny := fun before t =>
  (hE.matched?_eq hx Expression.ofSource?_anyChar before t).trans (preferred?_anyChar before t)

/-- The program waits for one character and accepts. -/
theorem leftmostFirst_threads_anyChar : threads.LeftmostFirst "(?s)." := by
  refine leftmostFirst_threads Expression.ofSource?_anyChar fun before t => ?_
  have hinitial (sight : Sight) : initial Expression.anyChar.program sight = [0] := rfl
  have hwaits : Waits Expression.anyChar.program 0 [.all] :=
    .step rfl rfl (fun _ => rfl) (.accept rfl)
  rw [preferred?_anyChar]
  simp only [Matcher.threads, matchLength?, hinitial, hwaits.scan_eq]
  cases t with
  | nil => rfl
  | cons c t =>
    simp only [begins, CharSet.contains_all, Bool.true_and, if_true]
    rfl

end Engine

/-! ## A step of the scan -/

namespace Recogniser

open Run

variable {stop : Recogniser α} {c last : Cursor} {ch : Char} {r : Text}

/-- All bounds above the number of bytes left are alike. -/
theorem seek_eq_seek (hc : c.OnBoundary) {m n : Nat} (hm : c.remaining < m)
    (hn : c.remaining < n) : seek stop m c = seek stop n c := by
  induction m generalizing n c with
  | zero => exact absurd hm (Nat.not_lt_zero _)
  | succ m ih =>
    cases n with
    | zero => exact absurd hn (Nat.not_lt_zero _)
    | succ n =>
      rw [seek, seek]
      by_cases hend : c.atEnd = true
      · rw [if_pos hend, if_pos hend]
      · obtain ⟨d, hd, hreach, hmoved⟩ := hc.next? (eq_false_of_ne_true hend)
        have hrem := hreach.remaining_lt hmoved
        have hbounds : seek stop m d = seek stop n d :=
          ih hreach.onBoundary (by omega) (by omega)
        rw [if_neg hend, if_neg hend, hd]
        simp only [reading, hbounds]

/-- Where a scan ends does not depend on where the attempts at `stop` end. -/
theorem reaches_of_seek {n : Nat} (hc : c.OnBoundary) (h : (seek stop n c).Yields () last) :
    c.Reaches last.location := by
  induction n generalizing c with
  | zero =>
    obtain ⟨log, h⟩ := h
    cases h
  | succ n ih =>
    rw [seek] at h
    by_cases hend : c.atEnd = true
    · rw [if_pos hend] at h
      obtain ⟨-, rfl⟩ := yields_success h
      exact hc.reaches
    · rw [if_neg hend] at h
      obtain ⟨v, next, -, h⟩ | ⟨e, h⟩ := exists_of_yields_resolve h
      · obtain ⟨-, rfl⟩ := yields_success h
        exact hc.reaches
      · obtain ⟨d, hd, hreach, -⟩ := hc.next? (eq_false_of_ne_true hend)
        rw [hd] at h
        exact hreach.trans (ih hreach.onBoundary h)

/-- At the end of the text there is nothing to take, and `stop` is not tried. -/
theorem takeUntil_nil (stop : Recogniser α) (h : c.rest? = some []) :
    takeUntil stop c = success [] c := by
  have hend := Cursor.rest?_eq_some_nil_iff.mp h
  rw [takeUntil, seek, if_pos hend, andThen_success,
    Cursor.sliceTo?_self (Cursor.onBoundary_of_rest? h)]
  rfl

/-- In front of a character there is nothing to take if `stop` succeeds, and otherwise the
character and what is taken behind it. -/
theorem takeUntil_cons (stop : Recogniser α) (h : c.rest? = some (ch :: r)) :
    takeUntil stop c = (stop c).resolve (fun _ _ => success [] c) fun _ =>
      (takeUntil stop (c.advance (Text.size [ch]))).andThen fun t last =>
        success (ch :: t) last := by
  have hc := Cursor.onBoundary_of_rest? h
  have hend : ¬ c.atEnd = true := by
    rw [← Cursor.rest?_eq_some_nil_iff, h]
    exact fun heq => List.cons_ne_nil ch r (Option.some.inj heq)
  obtain ⟨hreach, hoff, -⟩ := Cursor.advance_of_rest? (s := [ch]) h
  have hpos := Text.size_pos (List.cons_ne_nil ch [])
  have hrem := hreach.remaining_lt (by omega)
  have hnext := hreach.onBoundary
  have hfirst : c.sliceTo? (c.advance (Text.size [ch])) = some [ch] :=
    Cursor.sliceTo?_advance (s := [ch]) h
  rw [takeUntil, seek, if_neg hend, Cursor.next?_of_rest?_cons h, andThen, resolve_resolve]
  congr 1
  -- After a success of stop nothing has been taken, and after a failure the scan has gone on
  -- with a bound that is enough behind the character.
  · funext v next
    rw [resolve_success, Cursor.sliceTo?_self hc]
    rfl
  · funext e
    show (seek stop c.remaining _).resolve _ failure = _
    rw [seek_eq_seek hnext hrem (Nat.lt_succ_self _), takeUntil, andThen, andThen, resolve_resolve]
    simp only [resolve_failure]
    refine resolve_congr fun _ last hy => ?_
    have hlast := reaches_of_seek hnext hy
    obtain ⟨t, ht⟩ := hlast.exists_sliceTo? hnext
    rw [ht, hreach.sliceTo?_trans hc hlast hfirst ht]
    show success (ch :: t) last = (success t last).resolve _ _
    rw [resolve_success]

end Recogniser

/-! ## Up to the first place -/

namespace Parser

variable {g : Grammar S} {stop : Parser S α} {c next last : Cursor} {v : α} {f : Failure}
  {ch : Char} {r t : Text} {log log' : List Record} {x : Pattern}

/-- The first place from `c` on where `stop` succeeds, or the end of the text if there is
none. -/
structure FirstStop (g : Grammar S) (stop : Parser S α) (c last : Cursor) : Prop where
  reaches : c.Reaches last.location
  fails_before {d : Cursor} : c.Reaches d.location → d.offset < last.offset →
    ∃ f log, Returns g stop d (.failure f, log)
  stops : last.atEnd = true ∨ ∃ v next log, Returns g stop last (.success v next, log)

theorem firstStop_of_atEnd (hc : c.OnBoundary) (hend : c.atEnd = true) :
    FirstStop g stop c c where
  reaches := hc.reaches
  fails_before h hlt := absurd h.le (Nat.not_le_of_lt hlt)
  stops := .inl hend

theorem firstStop_of_success (hc : c.OnBoundary) (h : Returns g stop c (.success v next, log)) :
    FirstStop g stop c c where
  reaches := hc.reaches
  fails_before h hlt := absurd h.le (Nat.not_le_of_lt hlt)
  stops := .inr ⟨v, next, log, h⟩

/-- Where `stop` fails the search goes on behind the next character. -/
theorem FirstStop.cons (hrest : c.rest? = some (ch :: r))
    (hfail : Returns g stop c (.failure f, log))
    (h : FirstStop g stop (c.advance (Text.size [ch])) last) : FirstStop g stop c last where
  reaches := (Cursor.advance_of_rest? (s := [ch]) hrest).1.trans h.reaches
  fails_before := by
    intro d hd hlt
    obtain rfl | hnext := hd.eq_or_next hrest
    · exact ⟨f, log, hfail⟩
    · exact h.fails_before hnext hlt
  stops := h.stops

/-! ### What `takeUntil` takes -/

theorem returns_takeUntil_nil (h : c.rest? = some []) :
    Returns g (takeUntil stop) c (.success [] c, []) := by
  refine ⟨0, ?_⟩
  rw [parseWithin_takeUntil, Recogniser.takeUntil_nil _ h]
  rfl

theorem Returns.takeUntil_of_success (h : Returns g stop c (.success v next, log))
    (hrest : c.rest? = some (ch :: r)) :
    Returns g (takeUntil stop) c (.success [] c, log) := by
  obtain ⟨depth, hrun⟩ := h
  refine ⟨depth, ?_⟩
  rw [parseWithin_takeUntil, Recogniser.takeUntil_cons _ hrest, Run.resolve_of_success hrun,
    Run.after_success]

theorem Returns.takeUntil_cons (h : Returns g stop c (.failure f, log))
    (hrest : c.rest? = some (ch :: r))
    (hlater : Returns g (takeUntil stop) (c.advance (Text.size [ch])) (.success t last, log')) :
    Returns g (takeUntil stop) c (.success (ch :: t) last, log ++ log') := by
  obtain ⟨depth, hrun, hrun'⟩ := h.exists_common_depth hlater
  refine ⟨depth, ?_⟩
  rw [parseWithin_takeUntil] at hrun'
  rw [parseWithin_takeUntil, Recogniser.takeUntil_cons _ hrest, Run.resolve_of_failure hrun,
    Run.andThen_of_success hrun', Run.after_after, Run.after_success]

/-! ### What a repetition of characters takes -/

/-- Any character, where `stop` fails. -/
def passing (stop : Parser S α) (x : Pattern) : Parser S Text :=
  keepRight (notAhead stop) (pattern x)

theorem parseWithin_passing (g : Grammar S) (depth : Nat) (stop : Parser S α) (x : Pattern)
    (c : Cursor) :
    parseWithin g depth (passing stop x) c = (parseWithin g depth stop c).resolve
      (fun _ _ => Run.failAt c .unexpectedMatch) fun _ => Recogniser.pattern x c := by
  have hparts : parseWithin g depth (passing stop x) c =
      ((parseWithin g depth stop c).resolve (fun _ _ => Run.failAt c .unexpectedMatch)
        fun _ => Run.success () c).andThen fun _ next => Recogniser.pattern x next := by
    cases depth <;> rfl
  rw [hparts, Run.andThen, Run.resolve_resolve]
  simp only [Run.failAt, Run.resolve_failure, Run.resolve_success]

theorem Returns.passing_of_success (h : Returns g stop c (.success v next, log)) :
    Returns g (passing stop x) c (.failure ⟨.unexpectedMatch, c.location⟩, log) := by
  obtain ⟨depth, hrun⟩ := h
  refine ⟨depth, ?_⟩
  rw [parseWithin_passing, Run.resolve_of_success hrun]
  exact Run.after_failure log _

theorem Returns.passing_of_failure {o : Outcome Text} (h : Returns g stop c (.failure f, log))
    (hchar : Recogniser.pattern x c = .ok (o, [])) :
    Returns g (passing stop x) c (o, log) := by
  obtain ⟨depth, hrun⟩ := h
  refine ⟨depth, ?_⟩
  rw [parseWithin_passing, Run.resolve_of_failure hrun, hchar, Run.after, List.append_nil]

/-- In front of a character where `stop` fails the repetition goes on behind it. -/
theorem Returns.many_passing_cons (hx : x.MatchesAny) {vs : List Text}
    (h : Returns g stop c (.failure f, log))
    (hrest : c.rest? = some (ch :: r))
    (hlater : Returns g (many (passing stop x)) (c.advance (Text.size [ch]))
      (.success vs last, log')) :
    Returns g (many (passing stop x)) c (.success ([ch] :: vs) last, log ++ log') := by
  obtain ⟨-, hoff, -⟩ := Cursor.advance_of_rest? (s := [ch]) hrest
  have hpos := Text.size_pos (List.cons_ne_nil ch [])
  have hmove : c.offset < (c.advance (Text.size [ch])).offset := by omega
  have hchar := Recogniser.takes_pattern (s := [ch])
    (fun before => hx before (ch :: r)) c hrest
  exact (h.passing_of_failure hchar).many_cons (Cursor.onBoundary_of_rest? hrest) hmove hlater

/-- At the end of the text the repetition stops, whatever `stop` does there. -/
theorem stops_passing_nil (hx : x.MatchesAny) {y : Outcome α × List Record}
    (h : Returns g stop c y) (hrest : c.rest? = some []) : Stops g (passing stop x) c [] := by
  obtain ⟨o, log⟩ := y
  cases o with
  | success v next => exact .failed h.passing_of_success
  | failure f =>
    obtain ⟨e, he⟩ := Recogniser.refuses_pattern (fun before => hx before []) c hrest
    exact .failed (h.passing_of_failure he)

/-! ### Both stop at the first place -/

theorem exists_firstStop (hx : x.MatchesAny) (hrest : c.rest? = some r)
    (hreturns : ∀ d, c.Reaches d.location → ∃ x, Returns g stop d x) :
    ∃ t last, FirstStop g stop c last ∧ c.sliceTo? last = some t ∧
      (∃ log, Returns g (takeUntil stop) c (.success t last, log)) ∧
      ∃ vs log, Returns g (many (passing stop x)) c (.success vs last, log) ∧
        vs.flatten = t := by
  induction r generalizing c with
  | nil =>
    have hc := Cursor.onBoundary_of_rest? hrest
    -- Only the repetition asks here, so its parser has to return at the end as well.
    obtain ⟨y, hstop⟩ := hreturns c hc.reaches
    obtain ⟨log, hmany⟩ := (stops_passing_nil hx hstop hrest).many
    exact ⟨[], c, firstStop_of_atEnd hc (Cursor.rest?_eq_some_nil_iff.mp hrest),
      Cursor.sliceTo?_self hc, ⟨[], returns_takeUntil_nil hrest⟩, [], log, hmany, rfl⟩
  | cons ch r ih =>
    have hc := Cursor.onBoundary_of_rest? hrest
    obtain ⟨⟨o, log⟩, hstop⟩ := hreturns c hc.reaches
    cases o with
    | success v next =>
      obtain ⟨log', hmany⟩ := (Stops.failed hstop.passing_of_success).many
      exact ⟨[], c, firstStop_of_success hc hstop, Cursor.sliceTo?_self hc,
        ⟨log, hstop.takeUntil_of_success hrest⟩, [], log', hmany, rfl⟩
    | failure f =>
      obtain ⟨hreach, -, hrest'⟩ := Cursor.advance_of_rest? (s := [ch]) hrest
      obtain ⟨t, last, hfirst, hslice, ⟨log', htake⟩, vs, log'', hmany, hvs⟩ :=
        ih hrest' fun d hd => hreturns d (hreach.trans hd)
      refine ⟨ch :: t, last, hfirst.cons hrest hstop, ?_, ⟨_, hstop.takeUntil_cons hrest htake⟩,
        [ch] :: vs, _, hstop.many_passing_cons hx hrest hmany, ?_⟩
      · exact hreach.sliceTo?_trans hc hfirst.reaches
          (Cursor.sliceTo?_advance (s := [ch]) hrest) hslice
      · rw [List.flatten_cons, hvs]
        rfl

/-- From a boundary, and if `stop` returns from every place there is, `takeUntil stop` succeeds
at the first place where `stop` does, or at the end of the text, with the text in between.  A
repetition of any character, with `stop` not ahead, ends at the same place, and its characters
make up the same text, if any character is what the pattern that it compiles to matches. -/
theorem takeUntil_stops_first {any : Parser S Text} (hany : ofPattern? "(?s)." = some any)
    (hE : S.engine.LeftmostFirst "(?s).") (hc : c.OnBoundary)
    (hreturns : ∀ d, c.Reaches d.location → ∃ x, Returns g stop d x) :
    ∃ t last, FirstStop g stop c last ∧ c.sliceTo? last = some t ∧
      (∃ log, Returns g (takeUntil stop) c (.success t last, log)) ∧
      ∃ vs log,
        Returns g (many (keepRight (notAhead stop) any)) c (.success vs last, log) ∧
          vs.flatten = t := by
  obtain ⟨r, hrest⟩ := hc.exists_rest?
  obtain ⟨x, hx, rfl⟩ := Option.map_eq_some_iff.mp hany
  exact exists_firstStop (Engine.matchesAny hE hx) hrest hreturns

/-- A nest is looked for behind a character of two bytes and what only begins like a nest. -/
theorem nested_stops_first : ∃ any : Parser Nested.signature Text,
    ofPattern? "(?s)." = some any ∧ Nested.signature.engine.LeftmostFirst "(?s)." ∧
    (Cursor.start ['é', '(', 'é', '(', 'x', ')']).OnBoundary ∧
    (∀ d, (Cursor.start ['é', '(', 'é', '(', 'x', ')']).Reaches d.location →
      ∃ x, Returns Nested.grammar (rule ()) d x) ∧
    FirstStop Nested.grammar (rule ()) (.start ['é', '(', 'é', '(', 'x', ')'])
      ⟨['é', '(', 'é', '(', 'x', ')'], 5⟩ ∧
    ∃ vs log, Returns Nested.grammar (many (keepRight (notAhead (rule ())) any))
      (.start ['é', '(', 'é', '(', 'x', ')'])
      (.success vs ⟨['é', '(', 'é', '(', 'x', ')'], 5⟩, log) ∧ vs.flatten = ['é', '(', 'é'] := by
  have hc : (Cursor.start ['é', '(', 'é', '(', 'x', ')']).OnBoundary := Text.isBoundary_zero _
  have hreturns (d : Cursor)
      (hd : (Cursor.start ['é', '(', 'é', '(', 'x', ')']).Reaches d.location) :
      ∃ x, Returns Nested.grammar (rule ()) d x :=
    exists_returns Nested.guarded_grammar _ hd.onBoundary
  have hany : (ofPattern? "(?s)." : Option (Parser Nested.signature Text)) =
      some (pattern ⟨"(?s).", .threads Expression.anyChar⟩) :=
    congrArg (Option.map pattern)
      (Engine.pattern?_threads Expression.ofSource?_anyChar (by decide))
  have hE : Nested.signature.engine.LeftmostFirst "(?s)." := Engine.leftmostFirst_threads_anyChar
  have htake : Returns Nested.grammar (takeUntil (rule ()))
      (.start ['é', '(', 'é', '(', 'x', ')'])
      (.success ['é', '(', 'é'] ⟨['é', '(', 'é', '(', 'x', ')'], 5⟩, []) := ⟨3, rfl⟩
  obtain ⟨t, last, hfirst, -, ⟨log, htake'⟩, hmany⟩ := takeUntil_stops_first hany hE hc hreturns
  cases htake.unique htake'
  exact ⟨_, hany, hE, hc, hreturns, hfirst, hmany⟩

end Parser
end TextGrammar
