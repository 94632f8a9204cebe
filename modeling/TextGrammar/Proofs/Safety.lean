/-
What combinators keep.

A run is safe at a cursor if it ends at a place the cursor reaches, names only such places
in its records, and breaks down in allowed ways only.  A recogniser is safe below `n` if its
runs are safe where less than `n` bytes are left.  Every combinator makes safe recognisers
of safe parts.  What follows a part that consumes text need be safe below one byte less,
which is what makes recursion behind such a part end.
-/
import TextGrammar.Proofs.Boundary
import TextGrammar.Proofs.Repetition

namespace TextGrammar

variable {α β γ : Type}

/-- The offsets that a record names. -/
def Record.offsets : Record → List Nat
  | repetitionEnded n | listEnded n => [n]
  | succeeded a b => [a, b]
  | failed e a _ => [e, a]
  | tapped _ a (.success b) => [a, b]
  | tapped _ a (.failure e) => [a, e]
  | noted _ => []

/-- Where an attempt ended. -/
def Outcome.location : Outcome α → Location
  | success _ next => next.location
  | failure f => f.location

namespace Cursor

variable {c d : Cursor} {l m : List Record}

/-- All offsets that the records name are reached from the cursor. -/
def Covers (c : Cursor) (log : List Record) : Prop :=
  ∀ r ∈ log, ∀ n ∈ r.offsets, c.Reaches ⟨c.text, n⟩

theorem covers_nil (c : Cursor) : c.Covers [] := fun _ hr => absurd hr List.not_mem_nil

theorem Covers.append (hl : c.Covers l) (hm : c.Covers m) : c.Covers (l ++ m) := by
  intro r hr
  rcases List.mem_append.mp hr with hr | hr
  · exact hl r hr
  · exact hm r hr

theorem Covers.of_reaches (h : c.Reaches d.location) (hl : d.Covers l) : c.Covers l := by
  intro r hr n hn
  have htext : d.text = c.text := h.text_eq
  have hn := h.trans (hl r hr n hn)
  rwa [htext] at hn

theorem covers_singleton {r : Record} (h : ∀ n ∈ r.offsets, c.Reaches ⟨c.text, n⟩) :
    c.Covers [r] := by
  intro r' hr'
  rw [List.mem_singleton] at hr'
  rw [hr']
  exact h

end Cursor

namespace Run

variable {allowed : Breakdown → Prop} {c d : Cursor}

def Safe (allowed : Breakdown → Prop) (c : Cursor) : Run α → Prop
  | .ok (o, log) => c.Reaches o.location ∧ c.Covers log
  | .error b => allowed b

/-- The run succeeds with this value and cursor. -/
def Yields (r : Run α) (v : α) (next : Cursor) : Prop := ∃ log, r = .ok (.success v next, log)

theorem Safe.reaches {r : Run α} {v : α} {next : Cursor} (hr : r.Safe allowed c)
    (hy : r.Yields v next) : c.Reaches next.location := by
  obtain ⟨log, rfl⟩ := hy
  exact hr.1

theorem yields_success {v w : α} (h : (success v c).Yields w d) : w = v ∧ d = c := by
  obtain ⟨log, h⟩ := h
  cases h
  exact ⟨rfl, rfl⟩

theorem not_yields_failure {f : Failure} {v : α} : ¬ (failure f : Run α).Yields v c := by
  intro h
  obtain ⟨log, h⟩ := h
  cases h

theorem yields_of_after {log : List Record} {r : Run α} {v : α}
    (h : (r.after log).Yields v c) : r.Yields v c := by
  obtain ⟨log', h⟩ := h
  rcases r with b | ⟨o, l⟩
  · cases h
  · cases h
    exact ⟨l, rfl⟩

theorem exists_of_yields_resolve {r : Run α} {f : α → Cursor → Run β} {g : Failure → Run β}
    {w : β} (h : (r.resolve f g).Yields w d) :
    (∃ v next, r.Yields v next ∧ (f v next).Yields w d) ∨ ∃ e, (g e).Yields w d := by
  rcases r with b | ⟨o, log⟩
  · obtain ⟨log', h⟩ := h
    cases h
  · cases o with
    | success v next => exact .inl ⟨v, next, ⟨log, rfl⟩, yields_of_after h⟩
    | failure e => exact .inr ⟨e, yields_of_after h⟩

theorem exists_of_yields_andThen {r : Run α} {f : α → Cursor → Run β} {w : β}
    (h : (r.andThen f).Yields w d) : ∃ v next, r.Yields v next ∧ (f v next).Yields w d := by
  obtain h | ⟨e, h⟩ := exists_of_yields_resolve h
  · exact h
  · exact absurd h not_yields_failure

theorem exists_of_yields_reading {o : Option γ} {f : γ → Run α} {v : α}
    (h : (reading o f).Yields v d) : ∃ x, o = some x ∧ (f x).Yields v d := by
  cases o with
  | none =>
    obtain ⟨log, h⟩ := h
    cases h
  | some x => exact ⟨x, rfl, h⟩

theorem Safe.of_reaches {r : Run α} (h : c.Reaches d.location) (hr : r.Safe allowed d) :
    r.Safe allowed c := by
  rcases r with b | ⟨o, log⟩
  · exact hr
  · exact ⟨h.trans hr.1, .of_reaches h hr.2⟩

theorem safe_success (v : α) (h : c.Reaches d.location) : (success v d).Safe allowed c :=
  ⟨h, c.covers_nil⟩

theorem safe_failure {f : Failure} (h : c.Reaches f.location) :
    (failure f : Run α).Safe allowed c :=
  ⟨h, c.covers_nil⟩

theorem safe_failAt (h : c.OnBoundary) (cause : Cause) :
    (failAt c cause : Run α).Safe allowed c :=
  safe_failure h.reaches

theorem Safe.after {log : List Record} {r : Run α} (hlog : c.Covers log)
    (hr : r.Safe allowed c) : (r.after log).Safe allowed c := by
  rcases r with b | ⟨o, log'⟩
  · exact hr
  · exact ⟨hr.1, hlog.append hr.2⟩

theorem Safe.resolve {r : Run α} {f : α → Cursor → Run β} {g : Failure → Run β}
    (hr : r.Safe allowed c)
    (hf : ∀ v next, r.Yields v next → c.Reaches next.location → (f v next).Safe allowed c)
    (hg : ∀ e, c.Reaches e.location → (g e).Safe allowed c) :
    (r.resolve f g).Safe allowed c := by
  rcases r with b | ⟨o, log⟩
  · exact hr
  · cases o with
    | success v next => exact .after hr.2 (hf v next ⟨log, rfl⟩ hr.1)
    | failure e => exact .after hr.2 (hg e hr.1)

theorem Safe.andThen {r : Run α} {f : α → Cursor → Run β} (hr : r.Safe allowed c)
    (hf : ∀ v next, r.Yields v next → c.Reaches next.location → (f v next).Safe allowed next) :
    (r.andThen f).Safe allowed c :=
  hr.resolve (fun v next hy h => .of_reaches h (hf v next hy h)) (fun _ h => safe_failure h)

theorem Safe.record {r : Run α} {f : Outcome α → Record} (hr : r.Safe allowed c)
    (hf : ∀ o, c.Reaches o.location → ∀ n ∈ (f o).offsets, c.Reaches ⟨c.text, n⟩) :
    (r.record f).Safe allowed c := by
  rcases r with b | ⟨o, log⟩
  · exact hr
  · exact ⟨hr.1, hr.2.append (Cursor.covers_singleton (hf o hr.1))⟩

theorem safe_reading {o : Option γ} {next : γ → Run α}
    (ho : ∃ x, o = some x) (hnext : ∀ x, o = some x → (next x).Safe allowed c) :
    (reading o next).Safe allowed c := by
  obtain ⟨x, rfl⟩ := ho
  exact hnext x rfl

end Run

namespace Recogniser

open Run

variable {allowed : Breakdown → Prop} {n : Nat} {p : Recogniser α} {q : Recogniser β}
  {c : Cursor}

/-- All runs are safe that begin on a boundary with less than `n` bytes left. -/
def SafeBelow (allowed : Breakdown → Prop) (n : Nat) (p : Recogniser α) : Prop :=
  ∀ c : Cursor, c.OnBoundary → c.remaining < n → (p c).Safe allowed c

/-- Every success is at a place that is reached and further on. -/
def Advances (p : Recogniser α) : Prop :=
  ∀ (c : Cursor) (v : α) (next : Cursor),
    c.OnBoundary → (p c).Yields v next → c.Reaches next.location ∧ c.offset < next.offset

/-- `q` is safe where `p` has succeeded. -/
def SafeAfter (allowed : Breakdown → Prop) (n : Nat) (p : Recogniser α) (q : Recogniser β) :
    Prop :=
  ∀ (c : Cursor) (v : α) (next : Cursor), c.OnBoundary → c.remaining < n →
    (p c).Yields v next → c.Reaches next.location → (q next).Safe allowed next

/-- Every success is at a place that is reached. -/
def Forward (p : Recogniser α) : Prop :=
  ∀ (c : Cursor) (v : α) (next : Cursor),
    c.OnBoundary → (p c).Yields v next → c.Reaches next.location

theorem forward_of_safeBelow (h : ∀ n, SafeBelow allowed n p) : p.Forward :=
  fun c _ _ hc hy => (h _ c hc (Nat.lt_succ_self _)).reaches hy

theorem Forward.andThen {f : α → Recogniser β} (hp : p.Forward) (hf : ∀ v, (f v).Forward) :
    Forward fun c => (p c).andThen fun v next => f v next := by
  intro c w last hc hy
  obtain ⟨v, next, hnext, hlast⟩ := exists_of_yields_andThen hy
  have hreach := hp c v next hc hnext
  exact hreach.trans (hf v next w last hreach.onBoundary hlast)

theorem safeBelow_zero (p : Recogniser α) : SafeBelow allowed 0 p :=
  fun _ _ h => absurd h (Nat.not_lt_zero _)

theorem SafeBelow.mono {m : Nat} (h : SafeBelow allowed n p) (hm : m ≤ n) :
    SafeBelow allowed m p :=
  fun c hc hlt => h c hc (by omega)

theorem SafeBelow.at_reached {d : Cursor} (h : SafeBelow allowed n p)
    (hreach : c.Reaches d.location) (hlt : c.remaining < n) : (p d).Safe allowed d := by
  have hle := hreach.remaining_le
  exact h d hreach.onBoundary (by omega)

theorem SafeBelow.safeAfter (h : SafeBelow allowed n q) : SafeAfter allowed n p q :=
  fun _ _ _ _ hlt _ hreach => h.at_reached hreach hlt

/-- Behind a part that consumes text there is less left. -/
theorem Advances.safeAfter (hp : p.Advances) (hq : SafeBelow allowed n q) :
    SafeAfter allowed (n + 1) p q := by
  intro c v next hc hlt hy hreach
  have hrem := hreach.remaining_lt (hp c v next hc hy).2
  exact hq next hreach.onBoundary (by omega)

theorem SafeBelow.andThen {f : α → Recogniser β} (hp : SafeBelow allowed n p)
    (hf : ∀ v, SafeAfter allowed n p (f v)) :
    SafeBelow allowed n fun c => (p c).andThen fun v next => f v next :=
  fun c hc hlt =>
    (hp c hc hlt).andThen fun v next hy hreach => hf v c v next hc hlt hy hreach

theorem safeBelow_succeed (v : α) : SafeBelow allowed n fun c => Run.success v c :=
  fun _ hc _ => safe_success v hc.reaches

/-- A part whose value is replaced. -/
theorem SafeBelow.withValue (hq : SafeBelow allowed n q) (v : α) :
    SafeBelow allowed n fun c => (q c).andThen fun _ last => Run.success v last :=
  hq.andThen fun _ => (safeBelow_succeed v).safeAfter

/-- A part for its value and another part behind it. -/
theorem SafeBelow.followedBy (hp : SafeBelow allowed n p) (hq : SafeBelow allowed n q) :
    SafeBelow allowed n fun c =>
      (p c).andThen fun v next => (q next).andThen fun _ last => Run.success v last :=
  hp.andThen fun v => (hq.withValue v).safeAfter

/-! ## Leaves -/

theorem advances_literal {t : Text} (ht : t ≠ []) : (literal t).Advances := by
  intro c v next hc hy
  obtain ⟨rest, hrest⟩ := hc.exists_rest?
  have hpos := Text.size_pos ht
  rw [literal, hrest] at hy
  by_cases hpre : t.isPrefixOf rest = true
  · obtain ⟨r, rfl⟩ := List.isPrefixOf_iff_prefix.mp hpre
    obtain ⟨hreach, hoff, -⟩ := Cursor.advance_of_rest? hrest
    simp only [reading, hpre, if_true] at hy
    obtain ⟨-, rfl⟩ := yields_success hy
    exact ⟨hreach, by omega⟩
  · simp only [reading, hpre, if_false, Bool.false_eq_true] at hy
    exact absurd hy not_yields_failure

theorem safeBelow_fail (cause : Cause) :
    SafeBelow allowed n fun c => (failAt c cause : Run α) :=
  fun _ hc _ => safe_failAt hc cause

theorem safeBelow_literal (t : Text) : SafeBelow allowed n (literal t) := by
  intro c hc _
  refine safe_reading hc.exists_rest? fun rest hrest => ?_
  by_cases ht : t.isPrefixOf rest = true
  · obtain ⟨r, rfl⟩ := List.isPrefixOf_iff_prefix.mp ht
    rw [if_pos ht]
    exact safe_success t (Cursor.advance_of_rest? hrest).1
  · rw [if_neg ht]
    exact safe_failAt hc _

theorem safeBelow_pattern (p : Pattern) : SafeBelow allowed n (pattern p) := by
  intro c hc _
  obtain ⟨r, hr⟩ := hc.exists_rest?
  have hsnd := c.surroundings?_map_snd
  rw [hr] at hsnd
  obtain ⟨⟨before, rest⟩, hx, rfl⟩ := Option.map_eq_some_iff.mp hsnd
  refine safe_reading ⟨_, hx⟩ fun x hx' => ?_
  obtain rfl : (before, rest) = x := Option.some.inj (hx.symm.trans hx')
  dsimp only
  cases hm : p.matched? before rest with
  | none => exact safe_failAt hc _
  | some t =>
    obtain ⟨r', rfl⟩ := Pattern.matched?_prefix hm
    exact safe_success t (Cursor.advance_of_rest? hr).1

theorem safeBelow_endOfInput : SafeBelow allowed n endOfInput := by
  intro c hc _
  rw [endOfInput]
  split
  · exact safe_success () hc.reaches
  · exact safe_failAt hc _

/-! ## Combinators -/

theorem SafeBelow.filter (hp : SafeBelow allowed n p) (keep : α → Bool) (message : String) :
    SafeBelow allowed n (p.filter keep message) := by
  intro c hc hlt
  refine (hp c hc hlt).resolve (fun v next _ hreach => ?_) (fun _ h => safe_failure h)
  split
  · exact safe_success v hreach
  · exact safe_failAt hc _

/-- The bound of a loop is never met, since each round but the last moves on. -/
theorem SafeBelow.loop {ended : Nat → Record} (hended : ∀ i, (ended i).offsets = [i])
    (hp : SafeBelow allowed n p) (fuel : Nat) (hc : c.OnBoundary) (hlt : c.remaining < n)
    (hfuel : c.remaining < fuel) : (loop ended p fuel c).Safe allowed c := by
  induction fuel generalizing c with
  | zero => exact absurd hfuel (Nat.not_lt_zero _)
  | succ fuel ih =>
    refine (hp c hc hlt).resolve (fun v next _ hreach => ?_)
      (fun _ _ => safe_success [] hc.reaches)
    by_cases hzero : next.offset = c.offset
    · rw [if_pos hzero]
      refine .after (Cursor.covers_singleton fun i hi => ?_) (safe_success [v] hc.reaches)
      rw [hended, List.mem_singleton] at hi
      rw [hi]
      exact hc.reaches
    · have hle : c.offset ≤ next.offset := hreach.le
      have hrem := hreach.remaining_lt (by omega)
      have hrest : (Recogniser.loop ended p fuel next).Safe allowed next :=
        ih hreach.onBoundary (by omega) (by omega)
      rw [if_neg hzero]
      exact .of_reaches hreach (hrest.andThen fun vs last _ hlast =>
        safe_success (v :: vs) hlast.onBoundary.reaches)

theorem SafeBelow.many (hp : SafeBelow allowed n p) : SafeBelow allowed n (many p) := by
  intro c hc hlt
  rw [many_eq_loop]
  exact hp.loop (fun _ => rfl) _ hc hlt (Nat.lt_succ_self _)

theorem SafeBelow.many1 (hp : SafeBelow allowed n p) : SafeBelow allowed n (many1 p) := by
  intro c hc hlt
  refine (hp.many c hc hlt).resolve (fun vs next _ hreach => ?_) (fun _ h => safe_failure h)
  split
  · exact safe_failAt hc _
  · exact safe_success vs hreach

theorem SafeBelow.optional (hp : SafeBelow allowed n p) :
    SafeBelow allowed n (optional p) := by
  intro c hc hlt
  exact (hp c hc hlt).resolve (fun v _ _ hreach => safe_success (some v) hreach)
    (fun _ _ => safe_success none hc.reaches)

theorem safeBelow_blanks (white : Pattern) : SafeBelow allowed n (blanks white) := by
  intro c hc hlt
  exact (safeBelow_pattern white c hc hlt).resolve
    (fun _ _ _ hreach => safe_success () hreach) (fun _ _ => safe_success () hc.reaches)

theorem forward_blanks (white : Pattern) : Forward (blanks white) := by
  have hsafe (n : Nat) : SafeBelow (fun _ => True) n (blanks white) := safeBelow_blanks white
  exact forward_of_safeBelow hsafe

theorem Advances.trim (white : Pattern) (hp : p.Advances) : (trim white p).Advances := by
  intro c v last hc hy
  obtain ⟨_, first, hfirst, hy⟩ := exists_of_yields_andThen hy
  obtain ⟨w, next, hnext, hy⟩ := exists_of_yields_andThen hy
  obtain ⟨_, last', hlast, hy⟩ := exists_of_yields_andThen hy
  obtain ⟨-, rfl⟩ := yields_success hy
  have hreach := forward_blanks white c _ first hc hfirst
  obtain ⟨hreach', hlt⟩ := hp first w next hreach.onBoundary hnext
  have hreach'' := forward_blanks white next _ last hreach'.onBoundary hlast
  have hle : c.offset ≤ first.offset := hreach.le
  have hle' : next.offset ≤ last.offset := hreach''.le
  exact ⟨(hreach.trans hreach').trans hreach'', by omega⟩

theorem SafeBelow.trim (white : Pattern) (hp : SafeBelow allowed n p) :
    SafeBelow allowed n (trim white p) :=
  (safeBelow_blanks white).andThen fun _ => (hp.followedBy (safeBelow_blanks white)).safeAfter

theorem SafeBelow.separated (hp : SafeBelow allowed n p) (hq : SafeBelow allowed n q) :
    SafeBelow allowed n (separated p q) :=
  hq.andThen fun _ => hp.safeAfter

theorem SafeBelow.sepBy (hp : SafeBelow allowed n p) (hq : SafeBelow allowed n q) :
    SafeBelow allowed n (sepBy p q) := by
  intro c hc hlt
  refine (hp c hc hlt).resolve (fun v next _ hreach => ?_)
    (fun _ _ => safe_success [] hc.reaches)
  have hle := hreach.remaining_le
  have hloop : (Recogniser.loop .listEnded (Recogniser.separated p q) (next.remaining + 1)
      next).Safe allowed next :=
    (hp.separated hq).loop (fun _ => rfl) _ hreach.onBoundary (by omega) (Nat.lt_succ_self _)
  rw [moreItems_eq_loop]
  exact .of_reaches hreach (hloop.andThen fun vs last _ hlast =>
    safe_success (v :: vs) hlast.onBoundary.reaches)

theorem safeBelow_choice {ps : List (Recogniser α)} (hps : ∀ p ∈ ps, SafeBelow allowed n p) :
    SafeBelow allowed n (choice ps) := by
  intro c hc hlt
  fun_induction choice ps c with
  | case1 c => exact safe_failAt hc .noAlternatives
  | case2 p c => exact hps p List.mem_cons_self c hc hlt
  | case3 p ps c hne ih =>
    exact (hps p List.mem_cons_self c hc hlt).resolve (fun v _ _ hreach => safe_success v hreach)
      (fun _ _ => ih (fun q hq => hps q (List.mem_cons_of_mem p hq)) hc hlt)

theorem safeBelow_sequence_cons {ps : List (Recogniser α)} {p : Recogniser α}
    (hp : SafeBelow allowed n p) (hps : SafeAfter allowed n p (sequence ps)) :
    SafeBelow allowed n (sequence (p :: ps)) := by
  intro c hc hlt
  refine (hp c hc hlt).andThen fun v next hy hreach => ?_
  exact (hps c v next hc hlt hy hreach).andThen fun vs last _ hlast =>
    safe_success (v :: vs) hlast.onBoundary.reaches

theorem safeBelow_sequence {ps : List (Recogniser α)}
    (hps : ∀ p ∈ ps, SafeBelow allowed n p) : SafeBelow allowed n (sequence ps) := by
  induction ps with
  | nil => exact safeBelow_succeed []
  | cons p ps ih =>
    have hrest := ih fun q hq => hps q (List.mem_cons_of_mem p hq)
    exact safeBelow_sequence_cons (hps p List.mem_cons_self) hrest.safeAfter

theorem SafeBelow.seek (hp : SafeBelow allowed n p) (fuel : Nat) (hc : c.OnBoundary)
    (hlt : c.remaining < n) (hfuel : c.remaining < fuel) : (seek p fuel c).Safe allowed c := by
  induction fuel generalizing c with
  | zero => exact absurd hfuel (Nat.not_lt_zero _)
  | succ fuel ih =>
    rw [Recogniser.seek]
    by_cases hend : c.atEnd = true
    · rw [if_pos hend]
      exact safe_success () hc.reaches
    · rw [if_neg hend]
      refine (hp c hc hlt).resolve (fun _ _ _ _ => safe_success () hc.reaches) (fun _ _ => ?_)
      obtain ⟨d, hd, hreach, hmoved⟩ := hc.next? (eq_false_of_ne_true hend)
      have hrem := hreach.remaining_lt hmoved
      refine safe_reading ⟨d, hd⟩ fun d' hd' => ?_
      obtain rfl : d = d' := Option.some.inj (hd.symm.trans hd')
      exact .of_reaches hreach (ih hreach.onBoundary (by omega) (by omega))

theorem SafeBelow.takeUntil (hp : SafeBelow allowed n p) :
    SafeBelow allowed n (takeUntil p) := by
  intro c hc hlt
  refine (hp.seek _ hc hlt (Nat.lt_succ_self _)).resolve (fun _ last _ hreach => ?_)
    (fun _ h => safe_failure h)
  exact safe_reading (hreach.exists_sliceTo? hc) fun t _ => safe_success t hreach

end Recogniser
end TextGrammar
