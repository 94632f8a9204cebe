/-
What the leaves for classes of characters read.

Each of them reads the longest run of its class from the place where it begins, and fails where no
such run begins.  It does not see what stands in front of that place.  A run of letters and digits
falls into runs of digits and runs of letters, and a repetition finds these one after the other.
-/
import TextGrammar.Proofs.Nested
import TextGrammar.Proofs.Shift
import TextGrammar.Proofs.Taking
import TextGrammar.Proofs.Trimming

namespace TextGrammar

/-- The run reads all characters of a class from the cursor on, if one for which `begins` holds
stands there.  Otherwise it fails there with the pattern's source. -/
structure ReadsRun (begins goesOn : Char → Bool) (source : String) (c : Cursor) (run : Run Text) :
    Prop where
  success_iff : (∃ v next, run = Run.success v next) ↔
    ∃ ch, c.peek? = some (some ch) ∧ begins ch = true
  longest : ∀ v next, run = Run.success v next →
    c.LongestRun goesOn next v ∧ ∃ ch, v.head? = some ch ∧ begins ch = true
  failure : (¬ ∃ ch, c.peek? = some (some ch) ∧ begins ch = true) →
    run = Run.failAt c (.expectedPattern source)

variable {begins goesOn : Char → Bool} {source : String} {c next : Cursor} {ch : Char}
  {s r t : Text}

theorem readsRun_success (hpeek : c.peek? = some (some ch)) (hch : begins ch = true)
    (hrun : c.LongestRun goesOn next (ch :: t)) :
    ReadsRun begins goesOn source c (Run.success (ch :: t) next) where
  success_iff := ⟨fun _ => ⟨ch, hpeek, hch⟩, fun _ => ⟨_, _, rfl⟩⟩
  longest := by
    intro v next' h
    cases h
    exact ⟨hrun, ch, rfl, hch⟩
  failure := fun h => absurd ⟨ch, hpeek, hch⟩ h

theorem readsRun_failAt (h : ¬ ∃ ch, c.peek? = some (some ch) ∧ begins ch = true) :
    ReadsRun begins goesOn source c (Run.failAt c (.expectedPattern source)) where
  success_iff := by
    refine ⟨?_, fun hch => absurd hch h⟩
    rintro ⟨v, next, hrun⟩
    cases hrun
  longest := by
    intro v next hrun
    cases hrun
  failure := fun _ => rfl

namespace Recogniser

open Run

/-- A pattern that matches a first character and then all of a set reads the longest run. -/
theorem readsRun_of_leading {x : Pattern} {first set : CharSet} (hx : x.MatchesLeading first set)
    (hfirst : ∀ ch, first.contains ch = begins ch) (hset : ∀ ch, set.contains ch = goesOn ch)
    (hsub : ∀ ch, begins ch = true → goesOn ch = true) (hc : c.OnBoundary) :
    ReadsRun begins goesOn x.source c (pattern x c) := by
  obtain rfl : set.contains = goesOn := funext hset
  obtain ⟨t, hrest⟩ := hc.exists_rest?
  have hpeek := Cursor.peek?_of_rest? hrest
  cases t with
  | nil =>
    rw [pattern_eq_failAt hrest fun before => hx before []]
    refine readsRun_failAt ?_
    rintro ⟨ch, hch, -⟩
    cases hpeek.symm.trans hch
  | cons ch t =>
    by_cases hch : begins ch = true
    · have hsome (before : Option Char) :
          x.matched? before (ch :: t) = some (ch :: t.takeWhile set.contains) := by
        rw [hx, Expression.leading, if_pos ((hfirst ch).trans hch)]
      have hrun : c.LongestRun set.contains _ _ := Cursor.longestRun_takeWhile hrest
      rw [Cursor.past_of_rest? hrest, List.takeWhile_cons_of_pos (hsub ch hch)] at hrun
      rw [pattern_eq_success hrest hsome]
      exact readsRun_success hpeek hch hrun
    · have hout : ¬ first.contains ch = true := fun h => hch ((hfirst ch).symm.trans h)
      have hnone (before : Option Char) : x.matched? before (ch :: t) = none := by
        rw [hx, Expression.leading, if_neg hout]
      rw [pattern_eq_failAt hrest hnone]
      refine readsRun_failAt ?_
      rintro ⟨ch', hpeek', hch'⟩
      cases hpeek.symm.trans hpeek'
      exact hch hch'

/-- A built-in pattern matches in a text what it matches in the part from the cursor on. -/
theorem pattern_eq_shift {E : Engine} (hE : E.LeavesIgnoreFront) (l : BuiltIn) (a t : Text) :
    pattern (E.leaf l) ⟨a ++ t, a.size⟩ = (pattern (E.leaf l) (.start t)).shift a :=
  (alike_pattern (hE l) (.start t) ((Cursor.start t).shift a) rfl).eq_shift

end Recogniser

namespace Parser

open Pattern Recogniser

variable {S : Signature} {call : (r : S.Rule) → Recogniser (S.Result r)}

section Pieces

variable (hdigits : S.engine.LeftmostFirst "[0-9]+") (hletters : S.engine.LeftmostFirst "[a-zA-Z]+")

include hdigits hletters

/-- The first piece of a run of letters and digits. -/
theorem exists_piece (hs : s.Within alphanumericSet) (hne : s ≠ [])
    (hr : r.Outside alphanumericSet) :
    ∃ u t : Text, s = u ++ t ∧ u ≠ [] ∧
      (denote call (orElse digits letters)).Takes u u (t ++ r) := by
  by_cases hdigit : Text.Outside digitSet (s ++ r)
  · have hletter : ¬ Text.Outside letterSet (s ++ r) := by
      obtain ⟨ch, t, rfl⟩ := List.exists_cons_of_ne_nil hne
      intro hletter
      rcases contains_alphanumericSet_iff.mp (hs ch List.mem_cons_self) with h | h
      · rw [hletter ch rfl] at h
        cases h
      · rw [hdigit ch rfl] at h
        cases h
    obtain ⟨u, t, rfl, hu, hne, ht⟩ := Text.exists_front
      (fun ch hch => contains_alphanumericSet_iff.mpr (.inl hch)) hr hletter
    rw [List.append_assoc] at hdigit
    have hrefuses : (denote call digits).Refuses (u ++ (t ++ r)) :=
      refuses_run (Engine.matchesLeading_of_run (l := .digits) rfl hdigits) hdigit
    have htakes : (denote call letters).Takes u u (t ++ r) :=
      takes_run (Engine.matchesLeading_of_run (l := .letters) rfl hletters) hu hne ht
    exact ⟨u, t, rfl, hne, takes_orElse_right hrefuses htakes⟩
  · obtain ⟨u, t, rfl, hu, hne, ht⟩ := Text.exists_front
      (fun ch hch => contains_alphanumericSet_iff.mpr (.inr hch)) hr hdigit
    have htakes : (denote call digits).Takes u u (t ++ r) :=
      takes_run (Engine.matchesLeading_of_run (l := .digits) rfl hdigits) hu hne ht
    exact ⟨u, t, rfl, hne, takes_orElse_left htakes letters⟩

/-- Where no letter or digit stands there is no piece. -/
theorem refuses_piece (hr : r.Outside alphanumericSet) :
    (denote call (orElse digits letters)).Refuses r := by
  have hdigits : (denote call digits).Refuses r :=
    refuses_run (Engine.matchesLeading_of_run (l := .digits) rfl hdigits)
      (hr.mono fun ch hch => contains_alphanumericSet_iff.mpr (.inr hch))
  have hletters : (denote call letters).Refuses r :=
    refuses_run (Engine.matchesLeading_of_run (l := .letters) rfl hletters)
      (hr.mono fun ch hch => contains_alphanumericSet_iff.mpr (.inl hch))
  intro c hc
  rw [orElse_eq_of_refuses hdigits hc]
  exact hletters c hc

/-- A repetition goes through the pieces of a run.  The induction is on the number of characters,
since the first piece may be of any length. -/
theorem exists_pieces {ended : Nat → Record}
    (hforward : (denote call (orElse digits letters)).Forward) (hs : s.Within alphanumericSet)
    (hr : r.Outside alphanumericSet) :
    ∃ vs : List Text, vs.flatten = s ∧
      (exhaust ended (denote call (orElse digits letters))).Takes s vs r := by
  induction hlength : s.length using Nat.strongRecOn generalizing s with
  | _ n ih =>
    by_cases hne : s = []
    · subst hne
      exact ⟨[], rfl, takes_exhaust_nil (refuses_piece hdigits hletters hr)⟩
    · obtain ⟨u, t, rfl, hu, htakes⟩ := exists_piece hdigits hletters hs hne hr
      have hshorter : t.length < n := by
        have hpos := List.length_pos_iff.mpr hu
        rw [List.length_append] at hlength
        omega
      have ht : t.Within alphanumericSet := fun ch hch => hs ch (List.mem_append_right u hch)
      obtain ⟨vs, rfl, hrest⟩ := ih t.length hshorter ht rfl
      exact ⟨u :: vs, List.flatten_cons, takes_exhaust_cons hforward htakes hu hrest⟩

end Pieces

/-- The pieces, put together, are what the pattern of letters and digits matches. -/
theorem alphanumeric_or_pieces (hE : ∀ l : BuiltIn, S.engine.LeftmostFirst l.source)
    (g : Grammar S) (depth : Nat) (hc : c.OnBoundary) :
    (∃ vs next, parseWithin g depth alphanumeric c = Run.success vs.flatten next ∧
      parseWithin g depth (many1 (orElse digits letters)) c = Run.success vs next) ∨
    (parseWithin g depth alphanumeric c = Run.failAt c (.expectedPattern "[a-zA-Z0-9]+") ∧
      parseWithin g depth (many1 (orElse digits letters)) c =
        Run.failAt c .expectedAtLeastOne) := by
  have hforward := forward_parseWithin g depth (orElse digits letters)
  have hboth := Engine.matchesLeading_of_run rfl (hE .alphanumeric)
  obtain ⟨call, hcall⟩ := exists_parseWithin_eq_denote g depth
  rw [hcall] at hforward
  rw [parseWithin_many1, hcall, hcall]
  obtain ⟨t, hrest⟩ := hc.exists_rest?
  by_cases hout : t.Outside alphanumericSet
  · right
    exact ⟨run_eq_failAt hboth hrest hout,
      many1_eq_failAt (refuses_piece (hE .digits) (hE .letters) hout) hrest⟩
  · left
    obtain ⟨s, r, rfl, hs, hne, hr⟩ := Text.exists_run_of_not_outside hout
    obtain ⟨vs, rfl, hpieces⟩ :=
      exists_pieces (hE .digits) (hE .letters) hforward hs hr
    have hvs : vs ≠ [] := by
      rintro rfl
      exact hne rfl
    have htakes : (denote call alphanumeric).Takes vs.flatten vs.flatten r :=
      takes_run hboth hs hne hr
    exact ⟨vs, _, htakes c hrest, takes_many1 hpieces hvs c hrest⟩

/-- The leaves for classes of characters are what their source texts compile to, and with an engine
that matches these leftmost and first they read the longest runs of their classes: digits, letters,
both, names that begin with a letter or a low line, and white space, of which there may be none.
They match what they would match in a text that begins at the cursor.  And a run of letters and
digits is what a repetition of digits or letters reads, put together. -/
theorem leaves_read_longest_runs (hE : ∀ l : BuiltIn, S.engine.LeftmostFirst l.source)
    (g : Grammar S) (depth : Nat) (hc : c.OnBoundary) :
    (ofPattern? "[0-9]+" = some (digits : Parser S Text) ∧
      ReadsRun Char.isDigit Char.isDigit "[0-9]+" c (parseWithin g depth digits c)) ∧
    (ofPattern? "[a-zA-Z]+" = some (letters : Parser S Text) ∧
      ReadsRun Char.isAlpha Char.isAlpha "[a-zA-Z]+" c (parseWithin g depth letters c)) ∧
    (ofPattern? "[a-zA-Z0-9]+" = some (alphanumeric : Parser S Text) ∧
      ReadsRun Char.isAlphanum Char.isAlphanum "[a-zA-Z0-9]+" c
        (parseWithin g depth alphanumeric c)) ∧
    (ofPattern? "[a-zA-Z_][a-zA-Z0-9_]*" = some (identifier : Parser S Text) ∧
      ReadsRun (fun ch => ch.isAlpha || ch == '_') (fun ch => ch.isAlphanum || ch == '_')
        "[a-zA-Z_][a-zA-Z0-9_]*" c (parseWithin g depth identifier c)) ∧
    (ofPattern? "\\s*" = some (whitespace : Parser S Text) ∧
      ∃ w next, parseWithin g depth whitespace c = Run.success w next ∧
        c.LongestRun Unicode.isBlank next w) ∧
    (∀ l a t, c.text = a ++ t → c.offset = a.size →
      parseWithin g depth (pattern (S.engine.leaf l)) c =
        (parseWithin g depth (pattern (S.engine.leaf l)) (.start t)).shift a) ∧
    ((∃ vs next, parseWithin g depth alphanumeric c = Run.success vs.flatten next ∧
        parseWithin g depth (many1 (orElse digits letters)) c = Run.success vs next) ∨
      (parseWithin g depth alphanumeric c = Run.failAt c (.expectedPattern "[a-zA-Z0-9]+") ∧
        parseWithin g depth (many1 (orElse digits letters)) c =
          Run.failAt c .expectedAtLeastOne)) := by
  have hsource (l : BuiltIn) : ofPattern? l.source = some (pattern (S.engine.leaf l)) :=
    congrArg (Option.map pattern) (S.engine.pattern?_source l)
  refine ⟨⟨hsource .digits, ?_⟩, ⟨hsource .letters, ?_⟩, ⟨hsource .alphanumeric, ?_⟩,
    ⟨hsource .identifier, ?_⟩, ⟨hsource .whitespace, ?_⟩, ?_,
    alphanumeric_or_pieces hE g depth hc⟩
  · rw [digits, parseWithin_pattern]
    exact readsRun_of_leading (Engine.matchesLeading_of_run rfl (hE .digits)) contains_digitSet
      contains_digitSet (fun _ h => h) hc
  · rw [letters, parseWithin_pattern]
    exact readsRun_of_leading (Engine.matchesLeading_of_run rfl (hE .letters)) contains_letterSet
      contains_letterSet (fun _ h => h) hc
  · rw [alphanumeric, parseWithin_pattern]
    exact readsRun_of_leading (Engine.matchesLeading_of_run rfl (hE .alphanumeric))
      contains_alphanumericSet contains_alphanumericSet (fun _ h => h) hc
  · rw [identifier, parseWithin_pattern]
    refine readsRun_of_leading (Engine.matchesLeading_identifier (hE .identifier))
      contains_initialSet contains_asciiWord ?_ hc
    intro ch h
    rw [Bool.or_eq_true] at h ⊢
    rw [Char.isAlphanum, Bool.or_eq_true]
    exact h.imp_left .inl
  · obtain ⟨w, hmatch, hrun⟩ := exists_whitespace (Engine.matchesAll_whitespace (hE .whitespace)) hc
    rw [whitespace, parseWithin_pattern]
    exact ⟨w, _, hmatch, hrun⟩
  · intro l a t htext hoff
    obtain rfl : c = ⟨a ++ t, a.size⟩ := by
      rw [← htext, ← hoff]
    rw [parseWithin_pattern]
    exact pattern_eq_shift (Engine.leavesIgnoreFront hE) l a t

/-- A letter and a digit, with a letter of two bytes in front of them and a digit of two bytes
behind them, both outside the class. -/
theorem mixed_run :
    (∀ l : BuiltIn, Nested.signature.engine.LeftmostFirst l.source) ∧
    (Cursor.mk ['é', 'x', '1', '٣'] 2).OnBoundary ∧
    (Cursor.mk ['é', 'x', '1', '٣'] 2).LongestRun Char.isAlphanum ⟨['é', 'x', '1', '٣'], 4⟩
      ['x', '1'] ∧
    parseWithin Nested.grammar 0 digits ⟨['é', 'x', '1', '٣'], 2⟩ =
      Run.failAt ⟨['é', 'x', '1', '٣'], 2⟩ (.expectedPattern "[0-9]+") ∧
    ∃ vs, vs.flatten = ['x', '1'] ∧
      parseWithin Nested.grammar 0 (many1 (orElse digits letters)) ⟨['é', 'x', '1', '٣'], 2⟩ =
        Run.success vs ⟨['é', 'x', '1', '٣'], 4⟩ := by
  have hc : (Cursor.mk ['é', 'x', '1', '٣'] 2).OnBoundary := ⟨['é'], ['x', '1', '٣'], rfl, rfl⟩
  have hread : parseWithin Nested.grammar 0 alphanumeric ⟨['é', 'x', '1', '٣'], 2⟩ =
      Run.success ['x', '1'] ⟨['é', 'x', '1', '٣'], 4⟩ := rfl
  have hE : ∀ l : BuiltIn, Nested.signature.engine.LeftmostFirst l.source :=
    Engine.leftmostFirst_threads_builtIn
  obtain ⟨⟨-, hdigits⟩, -, ⟨-, hboth⟩, -, -, -, hpieces⟩ :=
    leaves_read_longest_runs hE Nested.grammar 0 hc
  refine ⟨hE, hc, (hboth.longest _ _ hread).1, hdigits.failure ?_, ?_⟩
  · rintro ⟨ch, hch, hdigit⟩
    cases hch
    cases hdigit
  · obtain ⟨vs, next, hall, hmany⟩ | ⟨hfail, -⟩ := hpieces
    · obtain ⟨hvs, rfl⟩ := Run.yields_success ⟨[], hread.symm.trans hall⟩
      exact ⟨vs, hvs, hmany⟩
    · cases hread.symm.trans hfail

end Parser
end TextGrammar
