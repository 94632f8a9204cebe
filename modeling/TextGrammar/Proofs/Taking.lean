/-
What parsers take from the front of a text.

`p.Takes s v r` says that wherever `s` stands in front of `r`, `p` moves past `s` with the value
`v` and makes no records.  `p.Refuses r` says that `p` fails in front of `r`, again without
records.  Each combinator has a lemma that puts texts together as the combinator puts parsers
together, so that a parser is followed along a printed text without a look at its cursors.
-/
import TextGrammar.Parser.Meaning
import TextGrammar.Proofs.Pattern.Preference
import TextGrammar.Proofs.Rounds

namespace TextGrammar

variable {α β γ : Type}

namespace Text

variable {s : CharSet} {t u : Text}

/-- All characters are of the set. -/
def Within (s : CharSet) (t : Text) : Prop := ∀ c ∈ t, s.contains c = true

instance (s : CharSet) (t : Text) : Decidable (t.Within s) :=
  List.decidableBAll _ t

/-- The text does not begin with a character of the set. -/
def Outside (s : CharSet) (t : Text) : Prop := ∀ c, t.head? = some c → s.contains c = false

theorem within_nil (s : CharSet) : Within s [] := fun _ h => absurd h List.not_mem_nil

theorem outside_cons {c : Char} (h : s.contains c = false) (t : Text) : Outside s (c :: t) := by
  intro d hd
  obtain rfl : c = d := Option.some.inj hd
  exact h

theorem Outside.mono {x : CharSet} (h : t.Outside x)
    (hsub : ∀ c, s.contains c = true → x.contains c = true) : t.Outside s := by
  intro c hc
  refine Bool.eq_false_iff.mpr fun hin => ?_
  have hout := h c hc
  rw [hsub c hin] at hout
  cases hout

theorem Outside.takeWhile_eq_nil (h : t.Outside s) : t.takeWhile s.contains = [] := by
  cases t with
  | nil => rfl
  | cons c t =>
    have hc := h c rfl
    rw [List.takeWhile_cons_of_neg]
    rw [hc]
    exact Bool.false_ne_true

theorem Within.takeWhile_append (ht : t.Within s) (hu : u.Outside s) :
    (t ++ u).takeWhile s.contains = t := by
  rw [List.takeWhile_append_of_pos ht, hu.takeWhile_eq_nil, List.append_nil]

/-- A text that begins with a character of the set begins with a longest run of them. -/
theorem exists_run_of_not_outside (h : ¬ t.Outside s) :
    ∃ u r : Text, t = u ++ r ∧ u.Within s ∧ u ≠ [] ∧ r.Outside s := by
  have hparts : t.takeWhile s.contains ++ t.dropWhile s.contains = t :=
    List.takeWhile_append_dropWhile
  have hbehind : Outside s (t.dropWhile s.contains) := by
    intro c hc
    have hnot := List.head?_dropWhile_not s.contains t
    rwa [hc] at hnot
  have hwithin : Within s (t.takeWhile s.contains) := List.all_eq_true.mp List.all_takeWhile
  refine ⟨_, _, hparts.symm, hwithin, fun hnil => h ?_, hbehind⟩
  rw [hnil, List.nil_append] at hparts
  rwa [hparts] at hbehind

/-- A run goes on no further than the characters of the set do. -/
theorem Within.isPrefix_of_append {r : Text} (hu : u.Within s) (hr : r.Outside s)
    (h : u <+: t ++ r) : u <+: t := by
  obtain ⟨x, hx⟩ := h
  obtain ⟨a, rfl, -⟩ | ⟨a, rfl, rfl⟩ := List.append_eq_append_iff.mp hx
  · exact List.prefix_append u a
  · cases a with
    | nil => simp only [List.append_nil, List.prefix_rfl]
    | cons c a =>
      have hin := hu c (List.mem_append_right t List.mem_cons_self)
      rw [hr c rfl] at hin
      cases hin

/-- A text that begins with a character of the set `s` begins with a longest run of them, and all
of it belongs to the characters of a larger set that the text begins with. -/
theorem exists_front {x : CharSet} {r : Text}
    (hsub : ∀ c, s.contains c = true → x.contains c = true) (hr : r.Outside x)
    (h : ¬ Outside s (t ++ r)) :
    ∃ u t' : Text, t = u ++ t' ∧ u.Within s ∧ u ≠ [] ∧ Outside s (t' ++ r) := by
  obtain ⟨u, w, hparts, hu, hne, hw⟩ := exists_run_of_not_outside h
  have hlarger : u.Within x := fun c hc => hsub c (hu c hc)
  obtain ⟨t', rfl⟩ := hlarger.isPrefix_of_append hr (hparts ▸ List.prefix_append u w)
  rw [List.append_assoc] at hparts
  obtain rfl := List.append_cancel_left hparts
  exact ⟨u, t', rfl, hu, hne, hw⟩

end Text

/-- A run that succeeds with every value that a text allows, and fails if it allows none,
succeeds with no other value. -/
theorem Run.exists_outcome {run : Run α} {allowed : α → Prop} {last : α → Cursor}
    {expected : Failure → Prop} (hsuccess : ∀ v, allowed v → run = success v (last v))
    (hcases : (∃ v, allowed v) ∨ ∃ f, run = failure f ∧ expected f) :
    ∃ o, run = .ok (o, []) ∧ (∀ v next, o = .success v next ↔ allowed v ∧ next = last v) ∧
      ∀ f, o = .failure f → expected f := by
  obtain ⟨v, hv⟩ | ⟨f, hf, hexpected⟩ := hcases
  · refine ⟨_, hsuccess v hv, fun w next => ⟨?_, ?_⟩, fun f h => ?_⟩
    · intro h
      cases h
      exact ⟨hv, rfl⟩
    · rintro ⟨hw, rfl⟩
      have hrun := (hsuccess v hv).symm.trans (hsuccess w hw)
      exact (Prod.mk.inj (Except.ok.inj hrun)).1
    · cases h
  · refine ⟨_, hf, fun w next => ⟨?_, ?_⟩, fun f' h => ?_⟩
    · intro h
      cases h
    · rintro ⟨hw, -⟩
      cases hf.symm.trans (hsuccess w hw)
    · cases h
      exact hexpected

namespace Recogniser

open Run

/-- In front of `r`, `p` takes `s` and yields `v`. -/
def Takes (p : Recogniser α) (s : Text) (v : α) (r : Text) : Prop :=
  ∀ c : Cursor, c.rest? = some (s ++ r) → p c = success v (c.advance s.size)

/-- In front of `r`, `p` fails. -/
def Refuses (p : Recogniser α) (r : Text) : Prop :=
  ∀ c : Cursor, c.rest? = some r → ∃ e, p c = failure e

variable {p p' : Recogniser α} {q : Recogniser β} {s s' r : Text} {v : α} {w : β}

/-! ## Leaves -/

theorem takes_succeed (v : α) (r : Text) : Takes (fun c => success v c) [] v r := by
  intro c h
  show success v c = success v (c.advance 0)
  rw [Cursor.advance_zero_of_rest? h]

theorem takes_literal (t r : Text) : (literal t).Takes t t r := by
  intro c h
  have hprefix : t.isPrefixOf (t ++ r) = true :=
    List.isPrefixOf_iff_prefix.mpr (List.prefix_append t r)
  simp only [literal, h, reading, hprefix, if_true]

theorem literal_eq_failAt {t : Text} {c : Cursor} (hc : c.rest? = some r) (h : ¬ t <+: r) :
    literal t c = failAt c (.expectedLiteral t) := by
  have hprefix : t.isPrefixOf r = false := by
    rw [← Bool.not_eq_true, List.isPrefixOf_iff_prefix]
    exact h
  simp only [literal, hc, reading, hprefix]
  rfl

theorem refuses_literal {t : Text} (h : ¬ t <+: r) : (literal t).Refuses r :=
  fun _ hc => ⟨_, literal_eq_failAt hc h⟩

theorem refuses_literal_of_ne {c d : Char} (h : c ≠ d) (r : Text) :
    (literal [c]).Refuses (d :: r) :=
  refuses_literal fun hprefix => h (List.cons_prefix_cons.mp hprefix).1

/-- A pattern that matches `s` whatever stands in front of it. -/
theorem pattern_eq_success {x : Pattern} {c : Cursor} (hc : c.rest? = some r)
    (h : ∀ before, x.matched? before r = some s) :
    pattern x c = success s (c.advance s.size) := by
  obtain ⟨a, htext, hoff⟩ := Cursor.rest?_eq_some_iff.mp hc
  simp only [pattern, Cursor.surroundings?_of_text_eq htext hoff, reading, h]

theorem takes_pattern {x : Pattern} (h : ∀ before, x.matched? before (s ++ r) = some s) :
    (pattern x).Takes s s r :=
  fun _ hc => pattern_eq_success hc h

theorem pattern_eq_failAt {x : Pattern} {c : Cursor} (hc : c.rest? = some r)
    (h : ∀ before, x.matched? before r = none) :
    pattern x c = failAt c (.expectedPattern x.source) := by
  obtain ⟨a, htext, hoff⟩ := Cursor.rest?_eq_some_iff.mp hc
  simp only [pattern, Cursor.surroundings?_of_text_eq htext hoff, reading, h]

theorem refuses_pattern {x : Pattern} (h : ∀ before, x.matched? before r = none) :
    (pattern x).Refuses r :=
  fun _ hc => ⟨_, pattern_eq_failAt hc h⟩

/-- A run of characters of a set, in front of any other character. -/
theorem takes_run {x : Pattern} {set : CharSet} (hx : x.MatchesLeading set set)
    (hs : s.Within set) (hne : s ≠ []) (hr : r.Outside set) : (pattern x).Takes s s r := by
  obtain ⟨c, t, rfl⟩ := List.exists_cons_of_ne_nil hne
  have ht : Text.Within set t := fun d hd => hs d (List.mem_cons_of_mem c hd)
  refine takes_pattern fun before => ?_
  rw [hx, List.cons_append, Expression.leading, if_pos (hs c List.mem_cons_self),
    ht.takeWhile_append hr]

theorem run_eq_failAt {x : Pattern} {set : CharSet} (hx : x.MatchesLeading set set) {c : Cursor}
    (hc : c.rest? = some r) (hr : r.Outside set) :
    pattern x c = failAt c (.expectedPattern x.source) := by
  refine pattern_eq_failAt hc fun before => ?_
  rw [hx]
  cases r with
  | nil => rfl
  | cons d r =>
    rw [Expression.leading, hr d rfl]
    rfl

theorem refuses_run {x : Pattern} {set : CharSet} (hx : x.MatchesLeading set set)
    (hr : r.Outside set) : (pattern x).Refuses r :=
  fun _ hc => ⟨_, run_eq_failAt hx hc hr⟩

theorem takes_endOfInput : endOfInput.Takes [] () [] := by
  intro c h
  rw [endOfInput, if_pos (Cursor.rest?_eq_some_nil_iff.mp h)]
  exact takes_succeed () [] c h

/-! ## One after the other -/

theorem Takes.andThen {f : α → Recogniser β} (hp : p.Takes s v (s' ++ r))
    (hf : (f v).Takes s' w r) :
    Takes (fun c => (p c).andThen fun v next => f v next) (s ++ s') w r := by
  intro c h
  rw [List.append_assoc] at h
  have hrest := Cursor.rest?_advance h
  show (p c).andThen _ = _
  rw [hp c h, andThen_success, hf _ hrest, Cursor.advance_advance, Text.size_append]

theorem Takes.withValue (hp : p.Takes s v r) (f : α → β) :
    Takes (fun c => (p c).andThen fun v next => success (f v) next) s (f v) r := by
  intro c h
  show (p c).andThen _ = _
  rw [hp c h, andThen_success]

theorem Takes.followedBy (hp : p.Takes s v (s' ++ r)) (hq : q.Takes s' w r) :
    Takes (fun c => (p c).andThen fun v next => (q next).andThen fun _ last => success v last)
      (s ++ s') v r :=
  hp.andThen (hq.withValue fun _ => v)

theorem Refuses.andThen (hp : p.Refuses r) (f : α → Recogniser β) :
    Refuses (fun c => (p c).andThen fun v next => f v next) r := by
  intro c h
  obtain ⟨e, he⟩ := hp c h
  refine ⟨e, ?_⟩
  show (p c).andThen _ = _
  rw [he, andThen_failure]

/-- What follows a part that takes something may still refuse. -/
theorem Takes.andThen_refuses {f : α → Recogniser β} (hp : p.Takes s v r)
    (hf : (f v).Refuses r) :
    Refuses (fun c => (p c).andThen fun v next => f v next) (s ++ r) := by
  intro c h
  obtain ⟨e, he⟩ := hf _ (Cursor.rest?_advance h)
  refine ⟨e, ?_⟩
  show (p c).andThen _ = _
  rw [hp c h, andThen_success, he]

/-! ## One or the other -/

theorem takes_optional_some (hp : p.Takes s v r) : (optional p).Takes s (some v) r := by
  intro c h
  rw [optional, hp c h, resolve_success]

theorem takes_optional_none (hp : p.Refuses r) : (optional p).Takes [] none r := by
  intro c h
  obtain ⟨e, he⟩ := hp c h
  rw [optional, he, resolve_failure]
  exact takes_succeed none r c h

theorem takes_choice_head (hp : p.Takes s v r) (ps : List (Recogniser α)) :
    (choice (p :: ps)).Takes s v r := by
  intro c h
  cases ps with
  | nil => exact hp c h
  | cons p' ps =>
    rw [choice, hp c h, resolve_success]
    exact List.cons_ne_nil p' ps

theorem takes_choice_tail {ps : List (Recogniser α)} (hp : p.Refuses (s ++ r))
    (hps : (choice ps).Takes s v r) : (choice (p :: ps)).Takes s v r := by
  intro c h
  cases ps with
  | nil => cases hps c h
  | cons p' ps =>
    obtain ⟨e, he⟩ := hp c h
    rw [choice, he, resolve_failure]
    · exact hps c h
    · exact List.cons_ne_nil p' ps

theorem refuses_choice {ps : List (Recogniser α)} (h : ∀ p ∈ ps, p.Refuses r) :
    (choice ps).Refuses r := by
  intro c hc
  fun_induction choice ps c with
  | case1 c => exact ⟨_, rfl⟩
  | case2 p c => exact h p List.mem_cons_self c hc
  | case3 p ps c hne ih =>
    obtain ⟨e, he⟩ := h p List.mem_cons_self c hc
    rw [he, resolve_failure]
    exact ih (fun q hq => h q (List.mem_cons_of_mem p hq)) hc

/-! ## White space -/

theorem takes_blanks {white : Pattern} (hwhite : white.MatchesAll .blank) {w r : Text}
    (hw : w.Within .blank) (hr : r.Outside .blank) : (blanks white).Takes w () r := by
  have hmatch (before : Option Char) : white.matched? before (w ++ r) = some w := by
    rw [hwhite, hw.takeWhile_append hr]
  intro c h
  rw [blanks, takes_pattern hmatch c h, resolve_success]

/-- White space on both sides of what the part takes.  The part may take some of it on the
right. -/
theorem Takes.trim {white : Pattern} (hwhite : white.MatchesAll .blank) {w w' : Text}
    (hp : p.Takes s v (w' ++ r)) (hw : w.Within .blank) (hs : ((s ++ w') ++ r).Outside .blank)
    (hw' : w'.Within .blank) (hr : r.Outside .blank) :
    (trim white p).Takes (w ++ (s ++ w')) v r :=
  (takes_blanks hwhite hw hs).andThen (f := fun _ c => (p c).andThen fun v next =>
    (blanks white next).andThen fun _ last => success v last)
    (hp.followedBy (takes_blanks hwhite hw' hr))

theorem Refuses.trim {white : Pattern} (hwhite : white.MatchesAll .blank) {w : Text}
    (hp : p.Refuses r) (hw : w.Within .blank) (hr : r.Outside .blank) :
    (trim white p).Refuses (w ++ r) :=
  (takes_blanks hwhite hw hr).andThen_refuses (f := fun _ c => (p c).andThen fun v next =>
    (blanks white next).andThen fun _ last => success v last) (hp.andThen _)

/-! ## Up to a place -/

/-- The search passes over every place where `stop` refuses. -/
theorem takes_seek {stop : Recogniser α} (hstop : stop.Takes s' v r) {s : Text}
    (hbefore : ∀ a b : Text, s = a ++ b → b ≠ [] → stop.Refuses (b ++ (s' ++ r))) {fuel : Nat}
    (hfuel : s.length < fuel) : (seek stop fuel).Takes s () (s' ++ r) := by
  induction s generalizing fuel with
  | nil =>
    cases fuel with
    | zero => exact absurd hfuel (Nat.not_lt_zero _)
    | succ fuel =>
      intro c h
      have hstay := takes_succeed () (s' ++ r) c h
      rw [seek]
      by_cases hend : c.atEnd = true
      · rw [if_pos hend]
        exact hstay
      · rw [if_neg hend, hstop c h, resolve_success]
        exact hstay
  | cons ch s ih =>
    cases fuel with
    | zero => exact absurd hfuel (Nat.not_lt_zero _)
    | succ fuel =>
      intro c h
      have hend : ¬ c.atEnd = true := by
        rw [← Cursor.rest?_eq_some_nil_iff, h]
        exact fun heq => List.cons_ne_nil _ _ (Option.some.inj heq)
      obtain ⟨e, he⟩ := hbefore [] (ch :: s) rfl (List.cons_ne_nil ch s) c h
      have hrest : (c.advance (Text.size [ch])).rest? = some (s ++ (s' ++ r)) :=
        Cursor.rest?_advance (s := [ch]) h
      have hlater := ih (fun a b heq => hbefore (ch :: a) b (congrArg (ch :: ·) heq))
        (Nat.lt_of_succ_lt_succ hfuel) _ hrest
      rw [seek, if_neg hend, he, resolve_failure, Cursor.next?_of_rest?_cons h]
      show seek stop fuel (c.advance (Text.size [ch])) = _
      rw [hlater, Cursor.advance_advance, ← Text.size_append]
      rfl

theorem takes_takeUntil {stop : Recogniser α} (hstop : stop.Takes s' v r) {s : Text}
    (hbefore : ∀ a b : Text, s = a ++ b → b ≠ [] → stop.Refuses (b ++ (s' ++ r))) :
    (takeUntil stop).Takes s s (s' ++ r) := by
  intro c h
  have hfuel : s.length < c.remaining + 1 := by
    have hlength := Text.length_le_size (s ++ (s' ++ r))
    rw [List.length_append] at hlength
    rw [Cursor.remaining_of_rest? h]
    omega
  rw [takeUntil, takes_seek hstop hbefore hfuel c h, andThen_success,
    Cursor.sliceTo?_advance h]
  rfl

/-! ## Again and again -/

theorem takes_exhaust_nil {ended : Nat → Record} (hp : p.Refuses r) :
    (exhaust ended p).Takes [] [] r := by
  intro c h
  obtain ⟨e, he⟩ := hp c h
  rw [exhaust, loop_succ, he, resolve_failure]
  exact takes_succeed [] r c h

theorem takes_exhaust_cons {ended : Nat → Record} (hforward : p.Forward) {vs : List α}
    (hp : p.Takes s v (s' ++ r)) (hne : s ≠ []) (hrest : (exhaust ended p).Takes s' vs r) :
    (exhaust ended p).Takes (s ++ s') (v :: vs) r := by
  intro c h
  rw [List.append_assoc] at h
  have hmoved := (Cursor.advance_of_rest? h).2.1
  have hpos := Text.size_pos hne
  have hmove : (c.advance s.size).offset ≠ c.offset := by omega
  have hlater := hrest _ (Cursor.rest?_advance h)
  rw [exhaust_of_move hforward (Cursor.onBoundary_of_rest? h) (hp c h) hmove hlater,
    Cursor.advance_advance, Text.size_append]
  rfl

theorem takes_many1 {vs : List α} (h : (exhaust .repetitionEnded p).Takes s vs r)
    (hne : vs ≠ []) : (many1 p).Takes s vs r := by
  intro c hc
  have hfull : ¬ vs.isEmpty = true := fun hempty => hne (List.isEmpty_iff.mp hempty)
  rw [many1, many_eq_exhaust, h c hc, andThen_success, if_neg hfull]

theorem many1_eq_failAt {c : Cursor} (hp : p.Refuses r) (hc : c.rest? = some r) :
    many1 p c = failAt c .expectedAtLeastOne := by
  obtain ⟨e, he⟩ := hp c hc
  rw [many1_eq_resolve, he, resolve_failure]

theorem takes_sepBy_nil (hp : p.Refuses r) (q : Recogniser β) : (sepBy p q).Takes [] [] r := by
  intro c h
  obtain ⟨e, he⟩ := hp c h
  rw [sepBy, he, resolve_failure]
  exact takes_succeed [] r c h

/-- An item, and then pairs of a separator and an item. -/
theorem takes_sepBy_cons {vs : List α} (hp : p.Takes s v (s' ++ r))
    (hrest : (exhaust .listEnded (separated p q)).Takes s' vs r) :
    (sepBy p q).Takes (s ++ s') (v :: vs) r := by
  intro c h
  rw [List.append_assoc] at h
  have hlater := hrest _ (Cursor.rest?_advance h)
  rw [sepBy_eq_resolve, hp c h, resolve_success, hlater, andThen_success, Cursor.advance_advance,
    Text.size_append]

end Recogniser

/-! ## Parsers -/

namespace Parser

open Recogniser

variable {S : Signature} {call : (r : S.Rule) → Recogniser (S.Result r)} {p : Parser S α}
  {q : Parser S β} {opening : Parser S γ} {s s' s'' r : Text} {v : α} {w : β} {x : γ}

theorem takes_map (hp : (denote call p).Takes s v r) (f : α → β) :
    (denote call (map p f)).Takes s (f v) r :=
  hp.withValue f

theorem refuses_map (hp : (denote call p).Refuses r) (f : α → β) :
    (denote call (map p f)).Refuses r :=
  hp.andThen fun v c => Run.success (f v) c

theorem takes_orElse_left (hp : (denote call p).Takes s v r) (p' : Parser S α) :
    (denote call (orElse p p')).Takes s v r := by
  intro c h
  show (denote call p c).resolve _ _ = _
  rw [hp c h, Run.resolve_success]

/-- The second of two parsers is all there is where the first one refuses. -/
theorem orElse_eq_of_refuses {p' : Parser S α} {c : Cursor} (hp : (denote call p).Refuses r)
    (hc : c.rest? = some r) : denote call (orElse p p') c = denote call p' c := by
  obtain ⟨e, he⟩ := hp c hc
  show (denote call p c).resolve _ _ = _
  rw [he, Run.resolve_failure]

theorem takes_orElse_right {p' : Parser S α} (hp : (denote call p).Refuses (s ++ r))
    (hp' : (denote call p').Takes s v r) : (denote call (orElse p p')).Takes s v r := by
  intro c h
  rw [orElse_eq_of_refuses hp h, hp' c h]

theorem takes_chain {next : α → Parser S β} (hp : (denote call p).Takes s v (s' ++ r))
    (hnext : (denote call (next v)).Takes s' w r) :
    (denote call (chain p next)).Takes (s ++ s') w r :=
  hp.andThen (f := fun v => denote call (next v)) hnext

/-- The part that follows may refuse what the first one leaves. -/
theorem refuses_chain {next : α → Parser S β} (hp : (denote call p).Takes s v r)
    (hnext : (denote call (next v)).Refuses r) : (denote call (chain p next)).Refuses (s ++ r) :=
  hp.andThen_refuses (f := fun v => denote call (next v)) hnext

theorem takes_keepLeft (hp : (denote call p).Takes s v (s' ++ r))
    (hq : (denote call q).Takes s' w r) : (denote call (keepLeft p q)).Takes (s ++ s') v r :=
  hp.followedBy hq

/-- Behind what the opening and the content take, it is for the closing to decide. -/
theorem between_eq_of_takes {c : Cursor} (ho : (denote call opening).Takes s x (s' ++ r))
    (hp : (denote call p).Takes s' v r) (hc : c.rest? = some (s ++ (s' ++ r))) :
    denote call (between opening q p) c =
      (denote call q (c.advance (s ++ s').size)).andThen fun _ last => Run.success v last := by
  show (denote call opening c).andThen _ = _
  rw [ho c hc, Run.andThen_success, hp _ (Cursor.rest?_advance hc), Run.andThen_success,
    Cursor.advance_advance, Text.size_append]

theorem takes_between (ho : (denote call opening).Takes s x ((s' ++ s'') ++ r))
    (hp : (denote call p).Takes s' v (s'' ++ r)) (hq : (denote call q).Takes s'' w r) :
    (denote call (between opening q p)).Takes (s ++ (s' ++ s'')) v r :=
  ho.andThen (f := fun _ => denote call (keepLeft p q)) (hp.followedBy hq)

theorem refuses_between (ho : (denote call opening).Refuses r) :
    (denote call (between opening q p)).Refuses r :=
  ho.andThen fun _ => denote call (keepLeft p q)

/-- What is enclosed may refuse what the opening leaves, -/
theorem refuses_between_of_content (ho : (denote call opening).Takes s x r)
    (hp : (denote call p).Refuses r) :
    (denote call (between opening q p)).Refuses (s ++ r) :=
  ho.andThen_refuses (f := fun _ => denote call (keepLeft p q))
    (hp.andThen fun v c => (denote call q c).andThen fun _ last => Run.success v last)

/-- and the closing may refuse what stands behind that. -/
theorem refuses_between_of_closing (ho : (denote call opening).Takes s x (s' ++ r))
    (hp : (denote call p).Takes s' v r) (hq : (denote call q).Refuses r) :
    (denote call (between opening q p)).Refuses (s ++ (s' ++ r)) := by
  intro c hc
  have hinner : c.rest? = some ((s ++ s') ++ r) := by
    rw [hc, List.append_assoc]
  obtain ⟨e, he⟩ := hq _ (Cursor.rest?_advance hinner)
  exact ⟨e, by rw [between_eq_of_takes ho hp hc, he, Run.andThen_failure]⟩

theorem takes_label (hp : (denote call p).Takes s v r) (message : String) :
    (denote call (label p message)).Takes s v r := by
  intro c h
  show (denote call p c).resolve _ _ = _
  rw [hp c h, Run.resolve_success]

/-- Parsers with a bound on the nesting of calls have the meaning that calls have then. -/
theorem exists_parseWithin_eq_denote (g : Grammar S) (depth : Nat) :
    ∃ call : (r : S.Rule) → Recogniser (S.Result r),
      ∀ {β : Type} (p : Parser S β), parseWithin g depth p = denote call p := by
  cases depth with
  | zero => exact ⟨_, fun _ => rfl⟩
  | succ depth => exact ⟨_, fun _ => rfl⟩

theorem ofFn_denote (ps : List (Parser S α)) :
    (List.ofFn fun i => denote call (ps.get i)) = ps.map (denote call) := by
  have hmap := List.map_ofFn (f := fun i : Fin ps.length => ps[i.val]) (g := denote call)
  rw [List.ofFn_getElem] at hmap
  exact hmap.symm

theorem denote_choose (ps : List (Parser S α)) :
    denote call (choose ps) = Recogniser.choice (ps.map (denote call)) :=
  congrArg Recogniser.choice (ofFn_denote ps)

theorem denote_inOrder (ps : List (Parser S α)) :
    denote call (inOrder ps) = Recogniser.sequence (ps.map (denote call)) :=
  congrArg Recogniser.sequence (ofFn_denote ps)

end Parser
end TextGrammar
