/-
Two runs side by side.

A correspondence says when cursors, failures and records of one run match those of another.
Its laws are about single steps: reading, moving, failing and recording at cursors that
match.  From them every combinator makes matching recognisers of matching parts, so whoever
compares two runs has to look at the steps only.

Values are the same on both sides.  A breakdown of the first run has to be one of the second,
unless the correspondence abandons it.
-/
import TextGrammar.Proofs.Boundary
import TextGrammar.Proofs.Repetition
import TextGrammar.Span

namespace TextGrammar

variable {α β γ : Type}

structure Correspondence where
  cursor : Cursor → Cursor → Prop
  failure : Failure → Failure → Prop
  log : List Record → List Record → Prop
  /-- Breakdowns of the first run that say nothing about the second. -/
  abandons : Breakdown → Prop
  rest_eq {c d : Cursor} : cursor c d → c.rest? = d.rest?
  atEnd_eq {c d : Cursor} : cursor c d → c.atEnd = d.atEnd
  remaining_eq {c d : Cursor} : cursor c d → c.remaining = d.remaining
  advance {c d : Cursor} {s r : Text} :
    cursor c d → c.rest? = some (s ++ r) → cursor (c.advance s.size) (d.advance s.size)
  /-- One run has moved if the other one has. -/
  moved_iff {c d c' d' : Cursor} :
    cursor c d → cursor c' d' → (c'.offset = c.offset ↔ d'.offset = d.offset)
  slice_eq {c d c' d' : Cursor} : cursor c d → cursor c' d' → c.sliceTo? c' = d.sliceTo? d'
  failAt {c d : Cursor} (cause : Cause) :
    cursor c d → failure ⟨cause, c.location⟩ ⟨cause, d.location⟩
  relabel {e f : Failure} (cause : Cause) :
    failure e f → failure ⟨cause, e.location⟩ ⟨cause, f.location⟩
  log_nil : log [] []
  log_append {l m l' m' : List Record} : log l m → log l' m' → log (l ++ l') (m ++ m')
  repetitionEnded {c d : Cursor} :
    cursor c d → log [.repetitionEnded c.offset] [.repetitionEnded d.offset]
  listEnded {c d : Cursor} : cursor c d → log [.listEnded c.offset] [.listEnded d.offset]
  noted (text : String) : log [.noted text] [.noted text]
  tapped_success (name : String) {c d c' d' : Cursor} : cursor c d → cursor c' d' →
    log [.tapped name c.offset (.success c'.offset)] [.tapped name d.offset (.success d'.offset)]
  tapped_failure (name : String) {c d : Cursor} {e f : Failure} : cursor c d → failure e f →
    log [.tapped name c.offset (.failure e.position)] [.tapped name d.offset (.failure f.position)]

namespace Run

variable {σ : Correspondence} {c d : Cursor}

inductive Alike (σ : Correspondence) : Run α → Run α → Prop where
  | success {v : α} {c d : Cursor} {l m : List Record} :
    σ.cursor c d → σ.log l m → Alike σ (.ok (.success v c, l)) (.ok (.success v d, m))
  | failure {e f : Failure} {l m : List Record} :
    σ.failure e f → σ.log l m → Alike σ (.ok (.failure e, l)) (.ok (.failure f, m))
  | breakdown (b : Breakdown) : Alike σ (.error b) (.error b)
  | abandoned {b : Breakdown} {r : Run α} : σ.abandons b → Alike σ (.error b) r

theorem alike_success (v : α) (h : σ.cursor c d) : Alike σ (success v c) (success v d) :=
  .success h σ.log_nil

theorem alike_failure {e f : Failure} (h : σ.failure e f) :
    Alike σ (failure e : Run α) (failure f) :=
  .failure h σ.log_nil

theorem alike_failAt (h : σ.cursor c d) (cause : Cause) :
    Alike σ (failAt c cause : Run α) (failAt d cause) :=
  alike_failure (σ.failAt cause h)

theorem Alike.after {l m : List Record} {r s : Run α} (hlog : σ.log l m) (h : Alike σ r s) :
    Alike σ (r.after l) (s.after m) := by
  cases h with
  | success hc hl => exact .success hc (σ.log_append hlog hl)
  | failure hf hl => exact .failure hf (σ.log_append hlog hl)
  | breakdown b => exact .breakdown b
  | abandoned hb => exact .abandoned hb

theorem Alike.resolve {r s : Run α} {f f' : α → Cursor → Run β} {g g' : Failure → Run β}
    (h : Alike σ r s) (hf : ∀ v c d, σ.cursor c d → Alike σ (f v c) (f' v d))
    (hg : ∀ e e', σ.failure e e' → Alike σ (g e) (g' e')) :
    Alike σ (r.resolve f g) (s.resolve f' g') := by
  cases h with
  | success hc hl => exact .after hl (hf _ _ _ hc)
  | failure he hl => exact .after hl (hg _ _ he)
  | breakdown b => exact .breakdown b
  | abandoned hb => exact .abandoned hb

theorem Alike.andThen {r s : Run α} {f f' : α → Cursor → Run β} (h : Alike σ r s)
    (hf : ∀ v c d, σ.cursor c d → Alike σ (f v c) (f' v d)) :
    Alike σ (r.andThen f) (s.andThen f') :=
  h.resolve hf fun _ _ he => alike_failure he

theorem Alike.reading {o : Option γ} {f f' : γ → Run α}
    (h : ∀ x, o = some x → Alike σ (f x) (f' x)) : Alike σ (reading o f) (reading o f') := by
  cases o with
  | none => exact .breakdown .splitCharacter
  | some x => exact h x rfl

/-- Matching cursors have matching next places. -/
theorem Alike.readingNext {f f' : Cursor → Run α} (h : σ.cursor c d)
    (hf : ∀ c' d', σ.cursor c' d' → Alike σ (f c') (f' d')) :
    Alike σ (Run.reading c.next? f) (Run.reading d.next? f') := by
  have hrest := σ.rest_eq h
  cases hr : c.rest? with
  | none =>
    have hr' : d.rest? = none := hrest ▸ hr
    simp only [Cursor.next?, Cursor.peek?, hr, hr', Option.map_none, Run.reading]
    exact .breakdown .splitCharacter
  | some r =>
    have hr' : d.rest? = some r := hrest ▸ hr
    cases r with
    | nil =>
      simp only [Cursor.next?, Cursor.peek?, hr, hr', Option.map_some, List.head?_nil, Run.reading]
      exact hf c d h
    | cons ch r =>
      rw [Cursor.next?_of_rest?_cons hr, Cursor.next?_of_rest?_cons hr']
      exact hf _ _ (σ.advance (s := [ch]) h hr)

theorem Alike.tapped {r s : Run α} (h : Alike σ r s) (hc : σ.cursor c d) (name : String) :
    Alike σ (r.record fun o => .tapped name c.offset o.ending)
      (s.record fun o => .tapped name d.offset o.ending) := by
  cases h with
  | success hc' hl => exact .success hc' (σ.log_append hl (σ.tapped_success name hc hc'))
  | failure hf hl => exact .failure hf (σ.log_append hl (σ.tapped_failure name hc hf))
  | breakdown b => exact .breakdown b
  | abandoned hb => exact .abandoned hb

end Run

namespace Recogniser

open Run

variable {σ : Correspondence} {p p' : Recogniser α} {q q' : Recogniser β} {c d : Cursor}

/-- Runs from matching cursors match. -/
def Alike (σ : Correspondence) (p q : Recogniser α) : Prop :=
  ∀ c d, σ.cursor c d → (p c).Alike σ (q d)

/-! ## Leaves -/

theorem alike_succeed (v : α) :
    Alike σ (fun c => Run.success v c) (fun c => Run.success v c) :=
  fun _ _ h => alike_success v h

theorem alike_fail (cause : Cause) :
    Alike σ (fun c => (Run.failAt c cause : Run α)) (fun c => Run.failAt c cause) :=
  fun _ _ h => alike_failAt h cause

theorem alike_literal (t : Text) : Alike σ (literal t) (literal t) := by
  intro c d h
  rw [literal, literal, ← σ.rest_eq h]
  refine .reading fun rest hrest => ?_
  by_cases ht : t.isPrefixOf rest = true
  · obtain ⟨r, rfl⟩ := List.isPrefixOf_iff_prefix.mp ht
    rw [if_pos ht, if_pos ht]
    exact alike_success t (σ.advance h hrest)
  · rw [if_neg ht, if_neg ht]
    exact alike_failAt h _

theorem alike_endOfInput : Alike σ endOfInput endOfInput := by
  intro c d h
  rw [endOfInput, endOfInput, σ.atEnd_eq h]
  split
  · exact alike_success () h
  · exact alike_failAt h _

/-! ## Combinators -/

theorem Alike.andThen {f f' : α → Recogniser β} (hp : Alike σ p p')
    (hf : ∀ v, Alike σ (f v) (f' v)) :
    Alike σ (fun c => (p c).andThen fun v next => f v next)
      (fun c => (p' c).andThen fun v next => f' v next) :=
  fun c d h => (hp c d h).andThen hf

theorem Alike.followedBy (hp : Alike σ p p') (hq : Alike σ q q') :
    Alike σ (fun c => (p c).andThen fun v next => (q next).andThen fun _ last => success v last)
      (fun c => (p' c).andThen fun v next => (q' next).andThen fun _ last => success v last) :=
  hp.andThen fun v => hq.andThen fun _ => alike_succeed v

theorem Alike.filter (hp : Alike σ p p') (keep : α → Bool) (message : String) :
    Alike σ (p.filter keep message) (p'.filter keep message) := by
  intro c d h
  refine (hp c d h).andThen fun v next next' hnext => ?_
  by_cases hv : keep v = true
  · rw [if_pos hv, if_pos hv]
    exact alike_success v hnext
  · rw [if_neg hv, if_neg hv]
    exact alike_failAt h _

theorem Alike.loop {ended : Nat → Record}
    (hended : ∀ c d, σ.cursor c d → σ.log [ended c.offset] [ended d.offset])
    (hp : Alike σ p p') (fuel : Nat) : Alike σ (loop ended p fuel) (loop ended p' fuel) := by
  induction fuel with
  | zero => exact fun _ _ _ => .breakdown .endlessRepetition
  | succ fuel ih =>
    intro c d h
    refine (hp c d h).resolve (fun v next next' hnext => ?_) (fun _ _ _ => alike_success [] h)
    by_cases hzero : next.offset = c.offset
    · have hzero' := (σ.moved_iff h hnext).mp hzero
      rw [if_pos hzero, if_pos hzero']
      exact .after (hended c d h) (alike_success [v] h)
    · have hzero' := fun h' => hzero ((σ.moved_iff h hnext).mpr h')
      rw [if_neg hzero, if_neg hzero']
      exact (ih next next' hnext).andThen fun vs last last' hlast =>
        alike_success (v :: vs) hlast

theorem Alike.many (hp : Alike σ p p') : Alike σ (many p) (many p') := by
  intro c d h
  rw [many_eq_loop, many_eq_loop, σ.remaining_eq h]
  exact hp.loop (fun _ _ => σ.repetitionEnded) _ c d h

theorem Alike.many1 (hp : Alike σ p p') : Alike σ (many1 p) (many1 p') := by
  intro c d h
  refine (hp.many c d h).andThen fun vs next next' hnext => ?_
  by_cases hvs : vs.isEmpty = true
  · rw [if_pos hvs, if_pos hvs]
    exact alike_failAt h _
  · rw [if_neg hvs, if_neg hvs]
    exact alike_success vs hnext

theorem Alike.optional (hp : Alike σ p p') : Alike σ (optional p) (optional p') := by
  intro c d h
  exact (hp c d h).resolve (fun v _ _ hnext => alike_success (some v) hnext)
    (fun _ _ _ => alike_success none h)

/-- White space is a pattern, and what it matches is not a law of correspondences. -/
theorem Alike.trim {white : Pattern} (hwhite : Alike σ (pattern white) (pattern white))
    (hp : Alike σ p p') : Alike σ (trim white p) (trim white p') := by
  have hblanks : Alike σ (blanks white) (blanks white) := fun c d h =>
    (hwhite c d h).resolve (fun _ _ _ hnext => alike_success () hnext)
      (fun _ _ _ => alike_success () h)
  exact hblanks.andThen fun _ => hp.followedBy hblanks

theorem Alike.sepBy (hp : Alike σ p p') (hq : Alike σ q q') :
    Alike σ (sepBy p q) (sepBy p' q') := by
  have hitem : Alike σ (separated p q) (separated p' q') := hq.andThen fun _ => hp
  intro c d h
  refine (hp c d h).resolve (fun v next next' hnext => ?_) (fun _ _ _ => alike_success [] h)
  rw [moreItems_eq_loop, moreItems_eq_loop, σ.remaining_eq hnext]
  exact (hitem.loop (fun _ _ => σ.listEnded) _ next next' hnext).andThen
    fun vs last last' hlast => alike_success (v :: vs) hlast

theorem Alike.orElse {p₂ p₂' : Recogniser α} (hp : Alike σ p p') (hq : Alike σ p₂ p₂') :
    Alike σ (fun c => (p c).resolve success fun _ => p₂ c)
      (fun c => (p' c).resolve success fun _ => p₂' c) :=
  fun c d h => (hp c d h).resolve (fun v _ _ hnext => alike_success v hnext) fun _ _ _ => hq c d h

theorem alike_choice {n : Nat} {ps ps' : Fin n → Recogniser α} (h : ∀ i, Alike σ (ps i) (ps' i)) :
    Alike σ (choice (List.ofFn ps)) (choice (List.ofFn ps')) := by
  induction n with
  | zero => exact alike_fail .noAlternatives
  | succ n ih =>
    rw [List.ofFn_succ, List.ofFn_succ]
    cases n with
    | zero => exact h 0
    | succ n =>
      have hrest := ih fun i => h i.succ
      rw [List.ofFn_succ, List.ofFn_succ] at hrest ⊢
      exact (h 0).orElse hrest

theorem alike_sequence {n : Nat} {ps ps' : Fin n → Recogniser α}
    (h : ∀ i, Alike σ (ps i) (ps' i)) :
    Alike σ (sequence (List.ofFn ps)) (sequence (List.ofFn ps')) := by
  induction n with
  | zero => exact alike_succeed []
  | succ n ih =>
    rw [List.ofFn_succ, List.ofFn_succ]
    exact (h 0).andThen fun v => (ih fun i => h i.succ).andThen fun vs => alike_succeed (v :: vs)

theorem Alike.seek (hp : Alike σ p p') (fuel : Nat) : Alike σ (seek p fuel) (seek p' fuel) := by
  induction fuel with
  | zero => exact fun _ _ _ => .breakdown .endlessRepetition
  | succ fuel ih =>
    intro c d h
    rw [Recogniser.seek, Recogniser.seek, σ.atEnd_eq h]
    by_cases hend : d.atEnd = true
    · rw [if_pos hend, if_pos hend]
      exact alike_success () h
    · rw [if_neg hend, if_neg hend]
      refine (hp c d h).resolve (fun _ _ _ _ => alike_success () h) (fun _ _ _ => ?_)
      exact .readingNext h fun c' d' h' => ih c' d' h'

theorem Alike.takeUntil (hp : Alike σ p p') : Alike σ (takeUntil p) (takeUntil p') := by
  intro c d h
  rw [Recogniser.takeUntil, Recogniser.takeUntil, σ.remaining_eq h]
  refine (hp.seek _ c d h).andThen fun _ last last' hlast => ?_
  rw [σ.slice_eq h hlast]
  exact .reading fun t _ => alike_success t hlast

theorem Alike.notAhead (hp : Alike σ p p') :
    Alike σ (fun c => (p c).resolve (fun _ _ => failAt c .unexpectedMatch) fun _ => success () c)
      (fun c => (p' c).resolve (fun _ _ => failAt c .unexpectedMatch) fun _ => success () c) :=
  fun c d h => (hp c d h).resolve (fun _ _ _ _ => alike_failAt h _) fun _ _ _ => alike_success () h

theorem Alike.lookAhead (hp : Alike σ p p') :
    Alike σ (fun c => (p c).andThen fun v _ => success v c)
      (fun c => (p' c).andThen fun v _ => success v c) :=
  fun c d h => (hp c d h).andThen fun v _ _ _ => alike_success v h

theorem Alike.label (hp : Alike σ p p') (message : String) :
    Alike σ (fun c => (p c).resolve success fun f => failure { f with cause := .message message })
      (fun c => (p' c).resolve success fun f => failure { f with cause := .message message }) :=
  fun c d h => (hp c d h).resolve (fun v _ _ hnext => alike_success v hnext)
    fun _ _ he => alike_failure (σ.relabel _ he)

theorem Alike.tap (hp : Alike σ p p') (name : String) :
    Alike σ (fun c => (p c).record fun o => .tapped name c.offset o.ending)
      (fun c => (p' c).record fun o => .tapped name c.offset o.ending) :=
  fun c d h => (hp c d h).tapped h name

theorem Alike.note (hp : Alike σ p p') (text : α → String) :
    Alike σ (fun c => (p c).andThen fun v next => after [.noted (text v)] (success v next))
      (fun c => (p' c).andThen fun v next => after [.noted (text v)] (success v next)) :=
  hp.andThen fun v _ _ h => .after (σ.noted (text v)) (alike_success v h)

/-- The range a part has consumed is the same where offsets are. -/
theorem Alike.withSpan (hoff : ∀ c d, σ.cursor c d → c.offset = d.offset) (hp : Alike σ p p') :
    Alike σ (fun c => (p c).andThen fun v next => success (v, (⟨c.offset, next.offset⟩ : Span)) next)
      (fun c => (p' c).andThen fun v next => success (v, ⟨c.offset, next.offset⟩) next) := by
  intro c d h
  refine (hp c d h).andThen fun v next next' hnext => ?_
  rw [hoff c d h, hoff next next' hnext]
  exact alike_success _ hnext

/-- A recogniser is like itself where the same places, failures and logs match. -/
theorem alike_self (hcursor : ∀ c d, σ.cursor c d → c = d) (hcursor' : ∀ c, σ.cursor c c)
    (hfailure : ∀ e, σ.failure e e) (hlog : ∀ l, σ.log l l) (p : Recogniser α) :
    Alike σ p p := by
  intro c d h
  obtain rfl := hcursor c d h
  rcases p c with b | ⟨o, log⟩
  · exact .breakdown b
  · cases o with
    | success v next => exact .success (hcursor' next) (hlog log)
    | failure f => exact .failure (hfailure f) (hlog log)

end Recogniser

/-! ## Runs over the same cursors -/

namespace Correspondence

/-- Runs that move alike, and whose failures and records are related. -/
def onSameCursors (failure : Failure → Failure → Prop)
    (log : List Record → List Record → Prop) (abandons : Breakdown → Prop)
    (failure_refl : ∀ e, failure e e)
    (failure_relabel : ∀ e f cause, failure e f →
      failure ⟨cause, e.location⟩ ⟨cause, f.location⟩)
    (failure_position : ∀ e f, failure e f → e.position = f.position)
    (log_refl : ∀ l, log l l)
    (log_append : ∀ l m l' m', log l m → log l' m' → log (l ++ l') (m ++ m')) :
    Correspondence where
  cursor := Eq
  failure := failure
  log := log
  abandons := abandons
  rest_eq h := congrArg Cursor.rest? h
  atEnd_eq h := congrArg Cursor.atEnd h
  remaining_eq h := congrArg Cursor.remaining h
  advance := by
    intro c d s r h _
    subst h
    rfl
  moved_iff := by
    intro c d c' d' h h'
    subst h h'
    rfl
  slice_eq := by
    intro c d c' d' h h'
    subst h h'
    rfl
  failAt := by
    intro c d cause h
    subst h
    exact failure_refl _
  relabel cause h := failure_relabel _ _ cause h
  log_nil := log_refl []
  log_append := log_append _ _ _ _
  repetitionEnded := by
    intro c d h
    subst h
    exact log_refl _
  listEnded := by
    intro c d h
    subst h
    exact log_refl _
  noted _ := log_refl _
  tapped_success := by
    intro name c d c' d' h h'
    subst h h'
    exact log_refl _
  tapped_failure := by
    intro name c d e f h he
    subst h
    rw [failure_position e f he]
    exact log_refl _

/-- Runs that end alike, and whose records are related. -/
def onSameOutcomes (log : List Record → List Record → Prop) (abandons : Breakdown → Prop)
    (log_refl : ∀ l, log l l)
    (log_append : ∀ l m l' m', log l m → log l' m' → log (l ++ l') (m ++ m')) :
    Correspondence :=
  onSameCursors Eq log abandons (fun _ => rfl)
    (fun _ _ cause h => congrArg (fun e : Failure => Failure.mk cause e.location) h)
    (fun _ _ h => congrArg Failure.position h) log_refl log_append

end Correspondence
end TextGrammar
