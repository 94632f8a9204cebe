/-
What logs are made of.

The log of a run that goes on is the log of its first part and then the log of its second
part.  So a kind of logs that includes the empty one and joins is kept by every combinator,
as long as it includes what the combinator records by itself.  Only repetitions and lists do
record something by themselves: see `logsIn_denote`.
-/
import TextGrammar.Parser.Meaning
import TextGrammar.Proofs.Quiet
import TextGrammar.Proofs.Repetition

namespace TextGrammar

variable {α β γ : Type}

/-- A kind of logs that includes the empty one and joins. -/
structure Joins (A : List Record → Prop) : Prop where
  nil : A []
  append {l m : List Record} : A l → A m → A (l ++ m)

namespace Run

variable {A : List Record → Prop} {r : Run α} {o : Outcome α} {log : List Record} {c : Cursor}

/-- The record of how a run ended is all that is added to its log. -/
theorem record_eq_ok_iff {f : Outcome α → Record} :
    r.record f = .ok (o, log) ↔ ∃ log', r = .ok (o, log') ∧ log = log' ++ [f o] := by
  constructor
  · intro h
    rcases r with b | ⟨o', log'⟩
    · cases h
    · cases h
      exact ⟨log', rfl, rfl⟩
  · intro h
    obtain ⟨log', rfl, rfl⟩ := h
    rfl

theorem after_eq_ok_iff {l : List Record} :
    r.after l = .ok (o, log) ↔ ∃ m, r = .ok (o, m) ∧ log = l ++ m := by
  constructor
  · intro h
    rcases r with b | ⟨o', m⟩
    · cases h
    · cases h
      exact ⟨m, rfl, rfl⟩
  · intro h
    obtain ⟨m, rfl, rfl⟩ := h
    rfl

/-- A run that goes on returns if both of its parts do, with the records of both. -/
theorem resolve_eq_ok_iff {f : α → Cursor → Run β} {g : Failure → Run β} {o : Outcome β} :
    r.resolve f g = .ok (o, log) ↔
      (∃ v next l m, r = .ok (.success v next, l) ∧ f v next = .ok (o, m) ∧ log = l ++ m) ∨
      (∃ e l m, r = .ok (.failure e, l) ∧ g e = .ok (o, m) ∧ log = l ++ m) := by
  constructor
  · intro h
    rcases r with b | ⟨x, l⟩
    · cases h
    · cases x with
      | success v next =>
        obtain ⟨m, hm, rfl⟩ := after_eq_ok_iff.mp h
        exact .inl ⟨v, next, l, m, rfl, hm, rfl⟩
      | failure e =>
        obtain ⟨m, hm, rfl⟩ := after_eq_ok_iff.mp h
        exact .inr ⟨e, l, m, rfl, hm, rfl⟩
  · intro h
    obtain ⟨v, next, l, m, rfl, hm, rfl⟩ | ⟨e, l, m, rfl, hm, rfl⟩ := h
    · exact after_eq_ok_iff.mpr ⟨m, hm, rfl⟩
    · exact after_eq_ok_iff.mpr ⟨m, hm, rfl⟩

/-- If the run returns, then with a log of this kind. -/
def LogIn (A : List Record → Prop) (r : Run α) : Prop := ∀ o log, r = .ok (o, log) → A log

theorem logIn_success (hA : Joins A) (v : α) (c : Cursor) : LogIn A (success v c) := by
  intro o log h
  cases h
  exact hA.nil

theorem logIn_failure (hA : Joins A) (f : Failure) : LogIn A (failure f : Run α) := by
  intro o log h
  cases h
  exact hA.nil

theorem LogIn.after (hA : Joins A) {l : List Record} (hl : A l) (h : LogIn A r) :
    LogIn A (r.after l) := by
  intro o log hr
  obtain ⟨m, hm, rfl⟩ := after_eq_ok_iff.mp hr
  exact hA.append hl (h o m hm)

theorem LogIn.resolve (hA : Joins A) {f : α → Cursor → Run β} {g : Failure → Run β}
    (h : LogIn A r) (hf : ∀ v next, LogIn A (f v next)) (hg : ∀ e, LogIn A (g e)) :
    LogIn A (r.resolve f g) := by
  intro o log hr
  obtain ⟨v, next, l, m, hl, hm, rfl⟩ | ⟨e, l, m, hl, hm, rfl⟩ := resolve_eq_ok_iff.mp hr
  · exact hA.append (h _ l hl) (hf v next o m hm)
  · exact hA.append (h _ l hl) (hg e o m hm)

theorem LogIn.andThen (hA : Joins A) {f : α → Cursor → Run β} (h : LogIn A r)
    (hf : ∀ v next, LogIn A (f v next)) : LogIn A (r.andThen f) :=
  h.resolve hA hf fun e => logIn_failure hA e

theorem logIn_reading {x : Option γ} {f : γ → Run α} (hf : ∀ y, LogIn A (f y)) :
    LogIn A (reading x f) := by
  cases x with
  | none =>
    intro o log h
    cases h
  | some y => exact hf y

end Run

namespace Recogniser

open Run

variable {A : List Record → Prop} {p : Recogniser α} {q : Recogniser β}

/-- All runs that return have logs of this kind. -/
def LogsIn (A : List Record → Prop) (p : Recogniser α) : Prop := ∀ c, (p c).LogIn A

theorem logsIn_succeed (hA : Joins A) (v : α) : LogsIn A fun c => success v c :=
  fun c => logIn_success hA v c

theorem logsIn_fail (hA : Joins A) (cause : Cause) :
    LogsIn A fun c => (failAt c cause : Run α) :=
  fun _ => logIn_failure hA _

theorem logsIn_literal (hA : Joins A) (t : Text) : LogsIn A (literal t) := by
  intro c
  refine logIn_reading fun rest => ?_
  split
  · exact logIn_success hA _ _
  · exact logIn_failure hA _

theorem logsIn_pattern (hA : Joins A) (p : Pattern) : LogsIn A (pattern p) := by
  intro c
  refine logIn_reading fun x => ?_
  dsimp only
  split
  · exact logIn_success hA _ _
  · exact logIn_failure hA _

theorem logsIn_endOfInput (hA : Joins A) : LogsIn A endOfInput := by
  intro c
  rw [endOfInput]
  split
  · exact logIn_success hA _ _
  · exact logIn_failure hA _

theorem LogsIn.andThen (hA : Joins A) {f : α → Recogniser β} (hp : LogsIn A p)
    (hf : ∀ v, LogsIn A (f v)) : LogsIn A fun c => (p c).andThen fun v next => f v next :=
  fun c => (hp c).andThen hA hf

theorem LogsIn.followedBy (hA : Joins A) (hp : LogsIn A p) (hq : LogsIn A q) :
    LogsIn A fun c =>
      (p c).andThen fun v next => (q next).andThen fun _ last => success v last :=
  hp.andThen hA fun v => hq.andThen hA fun _ => logsIn_succeed hA v

theorem LogsIn.filter (hA : Joins A) (hp : LogsIn A p) (keep : α → Bool) (message : String) :
    LogsIn A (p.filter keep message) := by
  intro c
  refine (hp c).andThen hA fun v next => ?_
  split
  · exact logIn_success hA _ _
  · exact logIn_failure hA _

theorem LogsIn.orElse (hA : Joins A) {p' : Recogniser α} (hp : LogsIn A p) (hp' : LogsIn A p') :
    LogsIn A fun c => (p c).resolve success fun _ => p' c :=
  fun c => (hp c).resolve hA (logIn_success hA) fun _ => hp' c

theorem LogsIn.optional (hA : Joins A) (hp : LogsIn A p) : LogsIn A (optional p) :=
  fun c => (hp c).resolve hA (fun _ _ => logIn_success hA _ _) fun _ => logIn_success hA _ _

theorem logsIn_blanks (hA : Joins A) (white : Pattern) : LogsIn A (blanks white) :=
  fun c => (logsIn_pattern hA white c).resolve hA (fun _ _ => logIn_success hA _ _)
    fun _ => logIn_success hA _ _

theorem LogsIn.trim (hA : Joins A) (white : Pattern) (hp : LogsIn A p) :
    LogsIn A (trim white p) :=
  (logsIn_blanks hA white).andThen hA fun _ => hp.followedBy hA (logsIn_blanks hA white)

theorem logsIn_choice (hA : Joins A) {ps : List (Recogniser α)} (h : ∀ p ∈ ps, LogsIn A p) :
    LogsIn A (choice ps) := by
  intro c
  fun_induction choice ps c with
  | case1 c => exact logIn_failure hA _
  | case2 p c => exact h p List.mem_cons_self c
  | case3 p ps c hne ih =>
    exact (h p List.mem_cons_self c).resolve hA (logIn_success hA)
      fun _ => ih fun q hq => h q (List.mem_cons_of_mem p hq)

theorem logsIn_sequence (hA : Joins A) {ps : List (Recogniser α)} (h : ∀ p ∈ ps, LogsIn A p) :
    LogsIn A (sequence ps) := by
  induction ps with
  | nil => exact logsIn_succeed hA []
  | cons p ps ih =>
    have hrest := ih fun q hq => h q (List.mem_cons_of_mem p hq)
    exact (h p List.mem_cons_self).andThen hA fun v => hrest.andThen hA fun vs =>
      logsIn_succeed hA (v :: vs)

theorem LogsIn.seek (hA : Joins A) (hp : LogsIn A p) (fuel : Nat) : LogsIn A (seek p fuel) := by
  induction fuel with
  | zero =>
    intro c o log h
    cases h
  | succ fuel ih =>
    intro c
    rw [Recogniser.seek]
    split
    · exact logIn_success hA _ _
    · exact (hp c).resolve hA (fun _ _ => logIn_success hA _ _) fun _ => logIn_reading ih

theorem LogsIn.takeUntil (hA : Joins A) (hp : LogsIn A p) : LogsIn A (takeUntil p) :=
  fun c => (hp.seek hA _ c).andThen hA fun _ _ => logIn_reading fun _ => logIn_success hA _ _

/-! ## Loops -/

theorem LogsIn.loop (hA : Joins A) {ended : Nat → Record} (hended : ∀ n, A [ended n])
    (hp : LogsIn A p) (fuel : Nat) : LogsIn A (loop ended p fuel) := by
  induction fuel with
  | zero =>
    intro c o log h
    cases h
  | succ fuel ih =>
    intro c
    refine (hp c).resolve hA (fun v next => ?_) fun _ => logIn_success hA _ _
    split
    · exact .after hA (hended c.offset) (logIn_success hA _ _)
    · exact (ih next).andThen hA fun _ _ => logIn_success hA _ _

theorem LogsIn.many (hA : Joins A) (hended : ∀ n, A [.repetitionEnded n]) (hp : LogsIn A p) :
    LogsIn A (many p) := by
  intro c
  rw [many_eq_loop]
  exact hp.loop hA hended _ c

theorem LogsIn.many1 (hA : Joins A) (hended : ∀ n, A [.repetitionEnded n]) (hp : LogsIn A p) :
    LogsIn A (many1 p) := by
  intro c
  refine (hp.many hA hended c).andThen hA fun vs next => ?_
  split
  · exact logIn_failure hA _
  · exact logIn_success hA _ _

theorem LogsIn.sepBy (hA : Joins A) (hended : ∀ n, A [.listEnded n]) (hp : LogsIn A p)
    (hq : LogsIn A q) : LogsIn A (sepBy p q) := by
  have hitem : LogsIn A (separated p q) := hq.andThen hA fun _ => hp
  intro c
  refine (hp c).resolve hA (fun v next => ?_) fun _ => logIn_success hA _ _
  rw [moreItems_eq_loop]
  exact (hitem.loop hA hended _ next).andThen hA fun _ _ => logIn_success hA _ _

end Recogniser

/-! ## Parsers -/

namespace Parser

open Recogniser

variable {S : Signature} {A : List Record → Prop} {call : (r : S.Rule) → Recogniser (S.Result r)}

/-- The outermost parts that write to the log by themselves satisfy `P`. -/
def AllRecording (P : {α : Type} → Parser S α → Prop) : {α : Type} → Parser S α → Prop
  | _, literal _ | _, pattern _ | _, succeed _ | _, fail _ | _, endOfInput | _, rule _ => True
  | _, many p => P (many p)
  | _, many1 p => P (many1 p)
  | _, sepBy p sep => P (sepBy p sep)
  | _, tap name p => P (tap name p)
  | _, note p text => P (note p text)
  | _, map p _ | _, filter p _ _ | _, optional p | _, trim p | _, notAhead p | _, lookAhead p
  | _, takeUntil p | _, label p _ | _, withSpan p => AllRecording P p
  | _, chain p next => AllRecording P p ∧ ∀ v, AllRecording P (next v)
  | _, orElse p q | _, keepRight p q | _, keepLeft p q => AllRecording P p ∧ AllRecording P q
  | _, between opening closing p =>
    AllRecording P opening ∧ AllRecording P closing ∧ AllRecording P p
  | _, choice ps | _, sequence ps => ∀ i, AllRecording P (ps i)

/-- A parser has logs of any kind that joins, if the parts that write to the log do. -/
theorem logsIn_denote (hA : Joins A) (hcall : ∀ r, LogsIn A (call r)) {p : Parser S α}
    (hp : p.AllRecording fun q => LogsIn A (denote call q)) : LogsIn A (denote call p) := by
  induction p with
  | literal t => exact logsIn_literal hA t
  | pattern x => exact logsIn_pattern hA x
  | succeed v => exact logsIn_succeed hA v
  | fail m => exact logsIn_fail hA _
  | endOfInput => exact logsIn_endOfInput hA
  | map p f ih => exact (ih hp).andThen hA fun v => logsIn_succeed hA (f v)
  | chain p next ih ihnext => exact (ih hp.1).andThen hA fun v => ihnext v (hp.2 v)
  | filter p keep m ih => exact (ih hp).filter hA keep m
  | orElse p q ihp ihq => exact (ihp hp.1).orElse hA (ihq hp.2)
  | keepRight p q ihp ihq => exact (ihp hp.1).andThen hA fun _ => ihq hp.2
  | keepLeft p q ihp ihq => exact (ihp hp.1).followedBy hA (ihq hp.2)
  | many p ih => exact hp
  | many1 p ih => exact hp
  | optional p ih => exact (ih hp).optional hA
  | trim p ih => exact (ih hp).trim hA _
  | sepBy p sep ihp ihsep => exact hp
  | between opening closing p iho ihc ihp =>
    exact (iho hp.1).andThen hA fun _ => (ihp hp.2.2).followedBy hA (ihc hp.2.1)
  | choice ps ih =>
    refine logsIn_choice hA fun q hq => ?_
    obtain ⟨i, rfl⟩ := List.mem_ofFn.mp hq
    exact ih i (hp i)
  | sequence ps ih =>
    refine logsIn_sequence hA fun q hq => ?_
    obtain ⟨i, rfl⟩ := List.mem_ofFn.mp hq
    exact ih i (hp i)
  | notAhead p ih =>
    exact fun c => (ih hp c).resolve hA (fun _ _ => Run.logIn_failure hA _)
      fun _ => Run.logIn_success hA _ _
  | lookAhead p ih =>
    exact fun c => (ih hp c).andThen hA fun _ _ => Run.logIn_success hA _ _
  | takeUntil p ih => exact (ih hp).takeUntil hA
  | label p m ih =>
    exact fun c => (ih hp c).resolve hA (Run.logIn_success hA) fun _ => Run.logIn_failure hA _
  | withSpan p ih =>
    exact fun c => (ih hp c).andThen hA fun _ _ => Run.logIn_success hA _ _
  | rule r => exact hcall r
  | tap name p ih => exact hp
  | note p text ih => exact hp

/-- In a grammar this is so if it is so of the parser and the rules, whatever the rules mean. -/
theorem logsIn_parseWithin (hA : Joins A) {g : Grammar S} {p : Parser S α}
    (hg : ∀ r, ∀ call, (∀ r, LogsIn A (call r)) →
      (g r).AllRecording fun q => LogsIn A (denote call q))
    (hp : ∀ call, (∀ r, LogsIn A (call r)) → p.AllRecording fun q => LogsIn A (denote call q))
    (depth : Nat) : LogsIn A (parseWithin g depth p) := by
  induction depth generalizing α p with
  | zero =>
    have hnone (r : S.Rule) :
        LogsIn A (fun _ => .error .nestingTooDeep : Recogniser (S.Result r)) := by
      intro c o log h
      cases h
    exact logsIn_denote hA hnone (hp _ hnone)
  | succ depth ih =>
    have hcall (r : S.Rule) : LogsIn A (parseWithin g depth (g r)) := ih (hg r)
    exact logsIn_denote hA hcall (hp _ hcall)

/-- What may write to the log: repetitions and lists occur only if `loops` holds, and taps
and notes only if `callbacks` does. -/
def MayRecord (loops callbacks : Prop) : {α : Type} → Parser S α → Prop
  | _, literal _ | _, pattern _ | _, succeed _ | _, fail _ | _, endOfInput | _, rule _ => True
  | _, many p | _, many1 p => loops ∧ MayRecord loops callbacks p
  | _, sepBy p sep => loops ∧ MayRecord loops callbacks p ∧ MayRecord loops callbacks sep
  | _, tap _ p | _, note p _ => callbacks ∧ MayRecord loops callbacks p
  | _, map p _ | _, filter p _ _ | _, optional p | _, trim p | _, notAhead p | _, lookAhead p
  | _, takeUntil p | _, label p _ | _, withSpan p => MayRecord loops callbacks p
  | _, chain p next => MayRecord loops callbacks p ∧ ∀ v, MayRecord loops callbacks (next v)
  | _, orElse p q | _, keepRight p q | _, keepLeft p q =>
    MayRecord loops callbacks p ∧ MayRecord loops callbacks q
  | _, between opening closing p =>
    MayRecord loops callbacks opening ∧ MayRecord loops callbacks closing ∧
      MayRecord loops callbacks p
  | _, choice ps | _, sequence ps => ∀ i, MayRecord loops callbacks (ps i)

variable {loops : Prop}

theorem allRecording_of_mayRecord (hA : Joins A) (hcall : ∀ r, LogsIn A (call r))
    (hended : loops → ∀ r : Record, r.isZeroWidth = true → A [r]) {p : Parser S α}
    (hp : p.MayRecord loops False) : p.AllRecording fun q => LogsIn A (denote call q) := by
  induction p with
  | literal _ | pattern _ | succeed _ | fail _ | endOfInput | rule _ => trivial
  | many p ih =>
    exact (logsIn_denote hA hcall (ih hp.2)).many hA fun n => hended hp.1 _ rfl
  | many1 p ih =>
    exact (logsIn_denote hA hcall (ih hp.2)).many1 hA fun n => hended hp.1 _ rfl
  | sepBy p sep ihp ihsep =>
    exact (logsIn_denote hA hcall (ihp hp.2.1)).sepBy hA (fun n => hended hp.1 _ rfl)
      (logsIn_denote hA hcall (ihsep hp.2.2))
  | tap _ p ih | note p _ ih => exact hp.1.elim
  | chain p next ih ihnext => exact ⟨ih hp.1, fun v => ihnext v (hp.2 v)⟩
  | orElse p q ihp ihq | keepRight p q ihp ihq | keepLeft p q ihp ihq =>
    exact ⟨ihp hp.1, ihq hp.2⟩
  | between opening closing p iho ihc ihp => exact ⟨iho hp.1, ihc hp.2.1, ihp hp.2.2⟩
  | choice ps ih | sequence ps ih => exact fun i => ih i (hp i)
  | map p _ ih | filter p _ _ ih | optional p ih | trim p ih | notAhead p ih | lookAhead p ih
  | takeUntil p ih | label p _ ih | withSpan p ih => exact ih hp

theorem joins_forall (P : Record → Prop) : Joins fun log => ∀ r ∈ log, P r where
  nil := fun _ hr => absurd hr List.not_mem_nil
  append hl hm := fun r hr => (List.mem_append.mp hr).elim (hl r) (hm r)

/-- Parsers without taps and notes make records of loops only, and none if they have no
loops. -/
theorem isZeroWidth_of_mayRecord {g : Grammar S} (hg : ∀ r, (g r).MayRecord loops False)
    {p : Parser S α} (hp : p.MayRecord loops False) {depth : Nat} {c : Cursor} {o : Outcome α}
    {log : List Record} (h : parseWithin g depth p c = .ok (o, log)) :
    ∀ r ∈ log, loops ∧ r.isZeroWidth = true := by
  have hA := joins_forall fun r => loops ∧ r.isZeroWidth = true
  have hended (hloops : loops) (r : Record) (hr : r.isZeroWidth = true) :
      ∀ r' ∈ [r], loops ∧ r'.isZeroWidth = true := by
    intro r' hr'
    rw [List.mem_singleton.mp hr']
    exact ⟨hloops, hr⟩
  exact logsIn_parseWithin hA (fun r _ hcall => allRecording_of_mayRecord hA hcall hended (hg r))
    (fun _ hcall => allRecording_of_mayRecord hA hcall hended hp) depth c o log h

end Parser
end TextGrammar
