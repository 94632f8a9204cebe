/-
What a repetition reads.

A trail is a sequence of matches of a parser, one behind the other, each of them further on.
At the end of a trail the parser stops if it fails there, or matches once more without moving.
From a boundary there is one trail that ends where the parser stops, and it is what a
repetition of the parser reads.
-/
import TextGrammar.Proofs.Containment
import TextGrammar.Proofs.Depth
import TextGrammar.Proofs.Rounds
import TextGrammar.Proofs.Termination

namespace TextGrammar

variable {S : Signature} {α : Type}

namespace Parser

/-- Matches of `p`, one behind the other and each further on, with the cursors behind them. -/
inductive Trail (g : Grammar S) (p : Parser S α) : Cursor → List (α × Cursor) → Prop where
  | nil (c : Cursor) : Trail g p c []
  | cons {c next : Cursor} {v : α} {log : List Record} {steps : List (α × Cursor)} :
    Returns g p c (.success v next, log) → c.offset < next.offset → Trail g p next steps →
    Trail g p c ((v, next) :: steps)

/-- The cursor behind the last match. -/
def trailEnd : Cursor → List (α × Cursor) → Cursor
  | c, [] => c
  | _, (_, next) :: steps => trailEnd next steps

/-- The values that `p` adds at the place where its repetition comes to an end: none if it
fails there, and one if it succeeds there without moving. -/
inductive Stops (g : Grammar S) (p : Parser S α) (c : Cursor) : List α → Prop where
  | failed {f : Failure} {log : List Record} :
    Returns g p c (.failure f, log) → Stops g p c []
  | stayed {v : α} {log : List Record} : Returns g p c (.success v c, log) → Stops g p c [v]

variable {g : Grammar S} {p : Parser S α} {c next : Cursor} {v : α} {log : List Record}
  {steps steps' : List (α × Cursor)} {extra extra' : List α}

theorem forward_parseWithin (g : Grammar S) (depth : Nat) (p : Parser S α) :
    (parseWithin g depth p).Forward :=
  Recogniser.forward_of_safeBelow fun n => safeBelow_parseWithin g depth n p

theorem Returns.reaches (h : Returns g p c (.success v next, log)) (hc : c.OnBoundary) :
    c.Reaches next.location := by
  obtain ⟨depth, hrun⟩ := h
  exact forward_parseWithin g depth p c v next hc ⟨log, hrun⟩

/-! ## There is one trail -/

theorem Trail.onBoundary (h : Trail g p c steps) (hc : c.OnBoundary) :
    (trailEnd c steps).OnBoundary := by
  induction h with
  | nil c => exact hc
  | cons hr _ _ ih => exact ih (hr.reaches hc).onBoundary

theorem trailEnd_append (c : Cursor) (front back : List (α × Cursor)) :
    trailEnd c (front ++ back) = trailEnd (trailEnd c front) back := by
  induction front generalizing c with
  | nil => rfl
  | cons step front ih => exact ih step.2

/-- A trail can be taken up at each of its cursors. -/
theorem Trail.split {front back : List (α × Cursor)} (h : Trail g p c (front ++ back)) :
    Trail g p c front ∧ Trail g p (trailEnd c front) back := by
  induction front generalizing c with
  | nil => exact ⟨.nil c, h⟩
  | cons step front ih =>
    cases h with
    | cons hr hmove hrest =>
      obtain ⟨hfront, hback⟩ := ih hrest
      exact ⟨.cons hr hmove hfront, hback⟩

theorem not_stops_of_moves (h : Returns g p c (.success v next, log))
    (hmove : c.offset < next.offset) : ¬ Stops g p c extra := by
  intro hstop
  cases hstop with
  | failed hf => cases h.unique hf
  | stayed hs =>
    cases h.unique hs
    exact absurd hmove (Nat.lt_irrefl _)

theorem Stops.unique (h : Stops g p c extra) (h' : Stops g p c extra') : extra = extra' := by
  cases h with
  | failed hf =>
    cases h' with
    | failed _ => rfl
    | stayed hs => cases hf.unique hs
  | stayed hs =>
    cases h' with
    | failed hf => cases hf.unique hs
    | stayed hs' =>
      cases hs.unique hs'
      rfl

theorem Trail.unique (h : Trail g p c steps) (h' : Trail g p c steps')
    (hstop : Stops g p (trailEnd c steps) extra)
    (hstop' : Stops g p (trailEnd c steps') extra') : steps = steps' ∧ extra = extra' := by
  induction h generalizing steps' with
  | nil c =>
    cases h' with
    | nil _ => exact ⟨rfl, hstop.unique hstop'⟩
    | cons hr hmove _ => exact absurd hstop (not_stops_of_moves hr hmove)
  | cons hr hmove _ ih =>
    cases h' with
    | nil _ => exact absurd hstop' (not_stops_of_moves hr hmove)
    | cons hr' _ hrest' =>
      cases hr.unique hr'
      obtain ⟨rfl, rfl⟩ := ih hrest' hstop hstop'
      exact ⟨rfl, rfl⟩

/-- A parser that returns wherever its trails lead has one that ends where it stops, since
less text is left behind each match. -/
theorem exists_trail_stops (hc : c.OnBoundary)
    (hreturns : ∀ steps, Trail g p c steps → ∃ x, Returns g p (trailEnd c steps) x) :
    ∃ steps extra, Trail g p c steps ∧ Stops g p (trailEnd c steps) extra := by
  induction hn : c.remaining using Nat.strongRecOn generalizing c with
  | ind n ih =>
    have hfirst : ∃ x, Returns g p c x := hreturns [] (.nil c)
    obtain ⟨⟨o, log⟩, hr⟩ := hfirst
    cases o with
    | failure f => exact ⟨[], [], .nil c, .failed hr⟩
    | success v next =>
      have hreach := hr.reaches hc
      obtain rfl | hmove := hreach.eq_or_lt
      · exact ⟨[], [v], .nil next, .stayed hr⟩
      · have hrem := hreach.remaining_lt hmove
        obtain ⟨steps, extra, htrail, hstop⟩ := ih next.remaining (by omega) hreach.onBoundary
          (fun steps htrail => hreturns _ (.cons hr hmove htrail)) rfl
        exact ⟨(v, next) :: steps, extra, .cons hr hmove htrail, hstop⟩

/-- Between the ends of a trail there is a character at least for every match. -/
theorem Trail.exists_between (h : Trail g p c steps) (hc : c.OnBoundary) :
    ∃ t r, c.rest? = some (t ++ r) ∧ (trailEnd c steps).rest? = some r ∧
      steps.length ≤ t.length := by
  induction h with
  | nil c =>
    obtain ⟨r, hr⟩ := hc.exists_rest?
    exact ⟨[], r, hr, hr, Nat.le_refl 0⟩
  | cons hr hmove _ ih =>
    have hreach := hr.reaches hc
    obtain ⟨t, r, hrest, hrest', hoff⟩ := hreach.exists_between hc
    obtain ⟨u, r', hnext, hend, hle⟩ := ih hreach.onBoundary
    obtain rfl : u ++ r' = r := Option.some.inj (hnext.symm.trans hrest')
    have hne : t ≠ [] := by
      intro hnil
      rw [hoff, hnil] at hmove
      exact Nat.lt_irrefl _ hmove
    have hpos := List.length_pos_iff.mpr hne
    refine ⟨t ++ u, r', ?_, hend, ?_⟩
    · rw [hrest, List.append_assoc]
    · rw [List.length_cons, List.length_append]
      omega

theorem Trail.length_le (h : Trail g p c steps) (hc : c.OnBoundary) {rest : Text}
    (hrest : c.rest? = some rest) : steps.length ≤ rest.length := by
  obtain ⟨t, r, hr, -, hle⟩ := h.exists_between hc
  obtain rfl : t ++ r = rest := Option.some.inj (hr.symm.trans hrest)
  rw [List.length_append]
  omega

theorem Stops.length_le (h : Stops g p c extra) : extra.length ≤ 1 := by
  cases h with
  | failed _ => exact Nat.zero_le _
  | stayed _ => exact Nat.le_refl _

/-! ## Repetitions follow it -/

theorem Stops.many (h : Stops g p c extra) :
    ∃ log, Returns g (many p) c (.success extra c, log) := by
  cases h with
  | @failed f log hf =>
    obtain ⟨depth, hrun⟩ := hf
    refine ⟨log, depth, ?_⟩
    rw [parseWithin_many, Recogniser.many_eq_exhaust]
    exact Recogniser.exhaust_of_failure hrun
  | @stayed v log hs =>
    obtain ⟨depth, hrun⟩ := hs
    refine ⟨log ++ [.repetitionEnded c.offset], depth, ?_⟩
    rw [parseWithin_many, Recogniser.many_eq_exhaust]
    exact Recogniser.exhaust_of_stay hrun rfl

/-- A match further on comes in front of what the repetition reads from there. -/
theorem Returns.many_cons {vs : List α} {last : Cursor} {log' : List Record}
    (h : Returns g p c (.success v next, log)) (hc : c.OnBoundary) (hmove : c.offset < next.offset)
    (hrest : Returns g (many p) next (.success vs last, log')) :
    Returns g (many p) c (.success (v :: vs) last, log ++ log') := by
  obtain ⟨depth, hrun, hrun'⟩ := h.exists_common_depth hrest
  refine ⟨depth, ?_⟩
  rw [parseWithin_many, Recogniser.many_eq_exhaust] at hrun' ⊢
  exact Recogniser.exhaust_of_move (forward_parseWithin g _ p) hc hrun (by omega) hrun'

theorem Trail.many (h : Trail g p c steps) (hc : c.OnBoundary)
    (hstop : Stops g p (trailEnd c steps) extra) :
    ∃ log, Returns g (many p) c
      (.success (steps.map Prod.fst ++ extra) (trailEnd c steps), log) := by
  induction h with
  | nil c => exact hstop.many
  | cons hr hmove _ ih =>
    obtain ⟨log, hrest⟩ := ih (hr.reaches hc).onBoundary hstop
    exact ⟨_, hr.many_cons hc hmove hrest⟩

/-- A repetition that returns has tried the parser where it begins. -/
theorem Returns.of_many {x : Outcome (List α) × List Record} (h : Returns g (many p) c x) :
    ∃ y, Returns g p c y := by
  obtain ⟨depth, hrun⟩ := h
  rw [parseWithin_many, Recogniser.many_eq_loop, Recogniser.loop_succ] at hrun
  cases hp : parseWithin g depth p c with
  | error b =>
    rw [hp] at hrun
    cases hrun
  | ok y => exact ⟨y, depth, hp⟩

/-- Behind a match further on it has gone on as a repetition from there. -/
theorem Returns.many_next {x : Outcome (List α) × List Record} (h : Returns g (many p) c x)
    (hc : c.OnBoundary) (hp : Returns g p c (.success v next, log))
    (hmove : c.offset < next.offset) : ∃ y, Returns g (many p) next y := by
  obtain ⟨depth, hrun, hrun'⟩ := h.exists_common_depth hp
  rw [parseWithin_many, Recogniser.many_eq_exhaust,
    Recogniser.exhaust_eq_resolve (forward_parseWithin g _ p) hc, hrun'] at hrun
  have hloop : Run.after log (if next.offset = c.offset then _ else _) = .ok x := hrun
  rw [if_neg (by omega)] at hloop
  cases hrest : parseWithin g depth (many p) next with
  | error b =>
    rw [parseWithin_many, Recogniser.many_eq_exhaust] at hrest
    rw [hrest] at hloop
    cases hloop
  | ok y => exact ⟨y, _, hrest⟩

theorem Trail.returns {x : Outcome (List α) × List Record} (h : Trail g p c steps)
    (hc : c.OnBoundary) (hmany : Returns g (Parser.many p) c x) :
    ∃ y, Returns g p (trailEnd c steps) y := by
  induction h generalizing x with
  | nil c => exact hmany.of_many
  | cons hr hmove _ ih =>
    obtain ⟨y, hnext⟩ := hmany.many_next hc hr hmove
    exact ih (hr.reaches hc).onBoundary hnext

/-- A repetition that returns has succeeded, along a trail to a place where the parser stops. -/
theorem Returns.exists_trail {o : Outcome (List α)} (h : Returns g (many p) c (o, log))
    (hc : c.OnBoundary) :
    ∃ steps extra, Trail g p c steps ∧ Stops g p (trailEnd c steps) extra ∧
      o = .success (steps.map Prod.fst ++ extra) (trailEnd c steps) := by
  obtain ⟨steps, extra, htrail, hstop⟩ :=
    exists_trail_stops hc fun steps htrail => htrail.returns hc h
  obtain ⟨log', hmany⟩ := htrail.many hc hstop
  cases h.unique hmany
  exact ⟨steps, extra, htrail, hstop, rfl⟩

/-- There is one value at most for which a repetition has consumed nothing. -/
theorem Returns.many_exists_between {vs : List α}
    (h : Returns g (many p) c (.success vs next, log)) (hc : c.OnBoundary) :
    ∃ t r, c.rest? = some (t ++ r) ∧ next.rest? = some r ∧ vs.length ≤ t.length + 1 := by
  obtain ⟨steps, extra, htrail, hstop, heq⟩ := h.exists_trail hc
  obtain ⟨rfl, rfl⟩ := Outcome.success.inj heq
  obtain ⟨t, r, hrest, hend, hle⟩ := htrail.exists_between hc
  have hextra := hstop.length_le
  refine ⟨t, r, hrest, hend, ?_⟩
  rw [List.length_append, List.length_map]
  omega

theorem Returns.many1_of_ne_nil {vs : List α} (h : Returns g (many p) c (.success vs next, log))
    (hvs : vs ≠ []) : Returns g (many1 p) c (.success vs next, log) := by
  obtain ⟨depth, hrun⟩ := h
  refine ⟨depth, ?_⟩
  rw [parseWithin_many] at hrun
  have hfull : ¬ vs.isEmpty = true := by simpa using hvs
  rw [parseWithin_many1, Recogniser.many1, Run.andThen_of_success hrun, if_neg hfull,
    Run.after_success]

theorem Returns.many1_of_nil (h : Returns g (many p) c (.success [] next, log)) :
    Returns g (many1 p) c (.failure ⟨.expectedAtLeastOne, c.location⟩, log) := by
  obtain ⟨depth, hrun⟩ := h
  refine ⟨depth, ?_⟩
  rw [parseWithin_many] at hrun
  rw [parseWithin_many1, Recogniser.many1, Run.andThen_of_success hrun]
  exact Run.after_failure log _

/-- From a boundary, a parser that returns wherever its trails lead has exactly one trail at
whose end it stops.  A repetition succeeds there with the values of the trail, and with the
one that the parser yields without moving, if it does; so there is at most one value more than
there are characters left.  Taken up at any cursor of the trail, the repetition reads what is
left of it.  With at least one match required the result is the same, but no match at all is
a failure at the start. -/
theorem many_returns_trail (hc : c.OnBoundary)
    (hreturns : ∀ steps, Trail g p c steps → ∃ x, Returns g p (trailEnd c steps) x) :
    ∃ steps extra,
      (Trail g p c steps ∧ Stops g p (trailEnd c steps) extra) ∧
      (∀ steps' extra', Trail g p c steps' → Stops g p (trailEnd c steps') extra' →
        steps' = steps ∧ extra' = extra) ∧
      (∃ log, Returns g (many p) c
        (.success (steps.map Prod.fst ++ extra) (trailEnd c steps), log)) ∧
      (∀ rest, c.rest? = some rest →
        (steps.map Prod.fst ++ extra).length ≤ rest.length + 1) ∧
      (∀ front back, steps = front ++ back → ∃ log, Returns g (many p) (trailEnd c front)
        (.success (back.map Prod.fst ++ extra) (trailEnd c steps), log)) ∧
      (steps.map Prod.fst ++ extra ≠ [] → ∃ log, Returns g (many1 p) c
        (.success (steps.map Prod.fst ++ extra) (trailEnd c steps), log)) ∧
      (steps.map Prod.fst ++ extra = [] → ∃ log, Returns g (many1 p) c
        (.failure ⟨.expectedAtLeastOne, c.location⟩, log)) := by
  obtain ⟨steps, extra, htrail, hstop⟩ := exists_trail_stops hc hreturns
  obtain ⟨log, hmany⟩ := htrail.many hc hstop
  refine ⟨steps, extra, ⟨htrail, hstop⟩, ?_, ⟨log, hmany⟩, ?_, ?_, ?_, ?_⟩
  · intro steps' extra' htrail' hstop'
    exact htrail'.unique htrail hstop' hstop
  · intro rest hrest
    have hsteps := htrail.length_le hc hrest
    have hextra := hstop.length_le
    rw [List.length_append, List.length_map]
    omega
  · intro front back hsplit
    subst hsplit
    obtain ⟨hfront, hback⟩ := htrail.split
    rw [trailEnd_append] at hstop ⊢
    exact hback.many (hfront.onBoundary hc) hstop
  · exact fun hne => ⟨log, hmany.many1_of_ne_nil hne⟩
  · intro hnil
    rw [hnil] at hmany
    exact ⟨log, hmany.many1_of_nil⟩

theorem exists_returns (hg : ∀ r, (g r).Guarded) (p : Parser S α) (hc : c.OnBoundary) :
    ∃ x, Returns g p c x := by
  have hsafe := safeBelow_of_guarded_grammar hg c.remaining p c hc (Nat.lt_succ_self _)
  cases hrun : parseWithin g (c.remaining + 1) p c with
  | error b =>
    rw [hrun] at hsafe
    exact hsafe.elim
  | ok x => exact ⟨x, _, hrun⟩

/-- Two nests and a character of two bytes.  The optional nest matches twice and then without
moving, so there are three values. -/
theorem nested_trail :
    (Cursor.start ['x', '(', 'x', ')', 'é']).OnBoundary ∧
    (∀ steps, Trail Nested.grammar (optional (rule ())) (.start ['x', '(', 'x', ')', 'é']) steps →
      ∃ x, Returns Nested.grammar (optional (rule ()))
        (trailEnd (.start ['x', '(', 'x', ')', 'é']) steps) x) ∧
    ∃ log, Returns Nested.grammar (many (optional (rule ()))) (.start ['x', '(', 'x', ')', 'é'])
      (.success [some 0, some 1, none] ⟨['x', '(', 'x', ')', 'é'], 4⟩, log) := by
  have hc : (Cursor.start ['x', '(', 'x', ')', 'é']).OnBoundary := Text.isBoundary_zero _
  have hreturns : ∀ steps,
      Trail Nested.grammar (optional (rule ())) (.start ['x', '(', 'x', ')', 'é']) steps →
      ∃ x, Returns Nested.grammar (optional (rule ()))
        (trailEnd (.start ['x', '(', 'x', ')', 'é']) steps) x :=
    fun steps htrail => exists_returns Nested.guarded_grammar _ (htrail.onBoundary hc)
  refine ⟨hc, hreturns, ?_⟩
  obtain ⟨steps, extra, -, hunique, hmany, -⟩ := many_returns_trail hc hreturns
  have htrail : Trail Nested.grammar (optional (rule ())) (.start ['x', '(', 'x', ')', 'é'])
      [(some 0, ⟨['x', '(', 'x', ')', 'é'], 1⟩), (some 1, ⟨['x', '(', 'x', ')', 'é'], 4⟩)] :=
    .cons ⟨2, rfl⟩ (by decide) (.cons ⟨2, rfl⟩ (by decide) (.nil _))
  obtain ⟨rfl, rfl⟩ := hunique _ [none] htrail (.stayed ⟨2, rfl⟩)
  exact hmany

end Parser
end TextGrammar
