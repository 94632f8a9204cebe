/-
Messages never decide.

Two parsers are the same but for messages if they differ only in the texts of their failures
and filters, and in where labels stand and what they say.  Such parsers move alike: only the
cause of a failure tells them apart, and with it the record of a run that failed.
-/
import TextGrammar.Proofs.Depth
import TextGrammar.Proofs.Log
import TextGrammar.Proofs.Nested

namespace TextGrammar

variable {S : Signature} {α : Type}

namespace Parser

/-- Parsers that differ in messages only.  Labels may stand on either side, at any part, in
what a continuation selects, and several of them on one part. -/
inductive SameButForMessages : {α : Type} → Parser S α → Parser S α → Prop where
  | literal (t : Text) : SameButForMessages (literal t) (literal t)
  | pattern (p : Pattern) : SameButForMessages (pattern p) (pattern p)
  | succeed {α : Type} (v : α) : SameButForMessages (succeed v) (succeed v)
  | fail {α : Type} (m m' : String) : SameButForMessages (fail m : Parser S α) (fail m')
  | endOfInput : SameButForMessages endOfInput endOfInput
  | map {α β : Type} {p p' : Parser S α} (f : α → β) :
    SameButForMessages p p' → SameButForMessages (map p f) (map p' f)
  | chain {α β : Type} {p p' : Parser S α} {next next' : α → Parser S β} :
    SameButForMessages p p' → (∀ v, SameButForMessages (next v) (next' v)) →
    SameButForMessages (chain p next) (chain p' next')
  | filter {α : Type} {p p' : Parser S α} (keep : α → Bool) (m m' : String) :
    SameButForMessages p p' → SameButForMessages (filter p keep m) (filter p' keep m')
  | orElse {α : Type} {p p' q q' : Parser S α} :
    SameButForMessages p p' → SameButForMessages q q' →
    SameButForMessages (orElse p q) (orElse p' q')
  | keepRight {α β : Type} {p p' : Parser S α} {q q' : Parser S β} :
    SameButForMessages p p' → SameButForMessages q q' →
    SameButForMessages (keepRight p q) (keepRight p' q')
  | keepLeft {α β : Type} {p p' : Parser S α} {q q' : Parser S β} :
    SameButForMessages p p' → SameButForMessages q q' →
    SameButForMessages (keepLeft p q) (keepLeft p' q')
  | many {α : Type} {p p' : Parser S α} :
    SameButForMessages p p' → SameButForMessages (many p) (many p')
  | many1 {α : Type} {p p' : Parser S α} :
    SameButForMessages p p' → SameButForMessages (many1 p) (many1 p')
  | optional {α : Type} {p p' : Parser S α} :
    SameButForMessages p p' → SameButForMessages (optional p) (optional p')
  | trim {α : Type} {p p' : Parser S α} :
    SameButForMessages p p' → SameButForMessages (trim p) (trim p')
  | sepBy {α β : Type} {p p' : Parser S α} {sep sep' : Parser S β} :
    SameButForMessages p p' → SameButForMessages sep sep' →
    SameButForMessages (sepBy p sep) (sepBy p' sep')
  | between {α β γ : Type} {opening opening' : Parser S α} {closing closing' : Parser S β}
    {p p' : Parser S γ} :
    SameButForMessages opening opening' → SameButForMessages closing closing' →
    SameButForMessages p p' →
    SameButForMessages (between opening closing p) (between opening' closing' p')
  | choice {α : Type} {n : Nat} {ps ps' : Fin n → Parser S α} :
    (∀ i, SameButForMessages (ps i) (ps' i)) → SameButForMessages (choice ps) (choice ps')
  | sequence {α : Type} {n : Nat} {ps ps' : Fin n → Parser S α} :
    (∀ i, SameButForMessages (ps i) (ps' i)) → SameButForMessages (sequence ps) (sequence ps')
  | notAhead {α : Type} {p p' : Parser S α} :
    SameButForMessages p p' → SameButForMessages (notAhead p) (notAhead p')
  | lookAhead {α : Type} {p p' : Parser S α} :
    SameButForMessages p p' → SameButForMessages (lookAhead p) (lookAhead p')
  | takeUntil {α : Type} {p p' : Parser S α} :
    SameButForMessages p p' → SameButForMessages (takeUntil p) (takeUntil p')
  | labelLeft {α : Type} {p p' : Parser S α} (m : String) :
    SameButForMessages p p' → SameButForMessages (label p m) p'
  | labelRight {α : Type} {p p' : Parser S α} (m : String) :
    SameButForMessages p p' → SameButForMessages p (label p' m)
  | withSpan {α : Type} {p p' : Parser S α} :
    SameButForMessages p p' → SameButForMessages (withSpan p) (withSpan p')
  | rule (r : S.Rule) : SameButForMessages (rule r) (rule r)
  | tap {α : Type} {p p' : Parser S α} (name : String) :
    SameButForMessages p p' → SameButForMessages (tap name p) (tap name p')
  | note {α : Type} {p p' : Parser S α} (text : α → String) :
    SameButForMessages p p' → SameButForMessages (note p text) (note p' text)

end Parser

/-! ## The correspondence -/

/-- The same runs, with failures at the same places and whatever causes. -/
def Correspondence.butForCauses : Correspondence :=
  { deeper with
    failure := fun e f => e.location = f.location
    abandons := fun _ => False
    failAt := by
      intro c d cause h
      exact congrArg Cursor.location h
    relabel := fun _ h => h
    tapped_failure := by
      intro name c d e f h he
      obtain rfl := h
      show [Record.tapped name c.offset (.failure e.location.offset)] = _
      rw [he]
      rfl }

open Correspondence

/-- The same value at the same cursor, or failures at the same place. -/
def Outcome.EndsAs : Outcome α → Outcome α → Prop
  | success v c, success w d => v = w ∧ c = d
  | failure e, failure f => e.location = f.location
  | _, _ => False

namespace Run

variable {r s : Run α}

theorem Alike.symm_butForCauses (h : Alike butForCauses r s) : Alike butForCauses s r := by
  cases h with
  | success hc hl => exact .success hc.symm hl.symm
  | failure hf hl => exact .failure hf.symm hl.symm
  | breakdown b => exact .breakdown b
  | abandoned hb => exact hb.elim

/-- A run that returns has a counterpart that returns, and both end alike. -/
theorem Alike.exists_ok (h : Alike butForCauses r s) {x : Outcome α × List Record}
    (hr : r = .ok x) : ∃ o, s = .ok (o, x.2) ∧ x.1.EndsAs o := by
  cases h with
  | success hc hl =>
    cases hr
    obtain rfl := hl
    exact ⟨_, rfl, rfl, hc⟩
  | failure hf hl =>
    cases hr
    obtain rfl := hl
    exact ⟨_, rfl, hf⟩
  | breakdown b => cases hr
  | abandoned hb => exact hb.elim

theorem alike_failAt_causes (c : Cursor) (cause cause' : Cause) :
    Alike butForCauses (failAt c cause : Run α) (failAt c cause') :=
  .failure rfl rfl

/-- Another cause on one side makes no difference. -/
theorem Alike.relabelLeft (h : Alike butForCauses r s) (cause : Cause) :
    Alike butForCauses (r.resolve Run.success fun f => Run.failure { f with cause := cause }) s := by
  cases h with
  | success hc hl =>
    refine .success hc ?_
    rw [List.append_nil]
    exact hl
  | failure hf hl =>
    refine .failure hf ?_
    rw [List.append_nil]
    exact hl
  | breakdown b => exact .breakdown b
  | abandoned hb => exact hb.elim

end Run

/-! ## Parsers -/

namespace Recogniser

variable {p p' : Recogniser α}

theorem alike_butForCauses_self (p : Recogniser α) : Alike butForCauses p p :=
  alike_self (fun _ _ h => h) (fun _ => rfl) (fun _ => rfl) (fun _ => rfl) p

theorem Alike.filterSaying (hp : Alike butForCauses p p') (keep : α → Bool) (m m' : String) :
    Alike butForCauses (p.filter keep m) (p'.filter keep m') := by
  intro c d h
  obtain rfl := h
  refine (hp c c rfl).andThen fun v next next' hnext => ?_
  by_cases hv : keep v = true
  · rw [if_pos hv, if_pos hv]
    exact Run.alike_success v hnext
  · rw [if_neg hv, if_neg hv]
    exact Run.alike_failAt_causes c _ _

end Recogniser

namespace Parser

open Recogniser

variable {call call' : (r : S.Rule) → Recogniser (S.Result r)} {g g' : Grammar S}
  {p p' : Parser S α}

theorem SameButForMessages.alike (hcall : ∀ r, Alike butForCauses (call r) (call' r))
    (h : p.SameButForMessages p') : Alike butForCauses (denote call p) (denote call' p') := by
  induction h with
  | literal t => exact alike_literal t
  | pattern x => exact alike_butForCauses_self _
  | succeed v => exact alike_succeed v
  | fail m m' =>
    intro c d h
    obtain rfl := h
    exact Run.alike_failAt_causes c _ _
  | endOfInput => exact alike_endOfInput
  | map f _ ih => exact ih.andThen fun v => alike_succeed (f v)
  | chain _ _ ih ihnext => exact ih.andThen ihnext
  | filter keep m m' _ ih => exact ih.filterSaying keep m m'
  | orElse _ _ ihp ihq => exact ihp.orElse ihq
  | keepRight _ _ ihp ihq => exact ihp.andThen fun _ => ihq
  | keepLeft _ _ ihp ihq => exact ihp.followedBy ihq
  | many _ ih => exact ih.many
  | many1 _ ih => exact ih.many1
  | optional _ ih => exact ih.optional
  | trim _ ih => exact .trim (alike_butForCauses_self _) ih
  | sepBy _ _ ihp ihsep => exact ihp.sepBy ihsep
  | between _ _ _ iho ihc ihp => exact iho.andThen fun _ => ihp.followedBy ihc
  | choice _ ih => exact alike_choice ih
  | sequence _ ih => exact alike_sequence ih
  | notAhead _ ih => exact ih.notAhead
  | lookAhead _ ih => exact ih.lookAhead
  | takeUntil _ ih => exact ih.takeUntil
  | labelLeft m _ ih => exact fun c d h => (ih c d h).relabelLeft _
  | labelRight m _ ih =>
    intro c d h
    exact ((ih c d h).symm_butForCauses.relabelLeft _).symm_butForCauses
  | withSpan _ ih => exact ih.withSpan fun _ _ h => congrArg Cursor.offset h
  | rule r => exact hcall r
  | tap name _ ih => exact ih.tap name
  | note text _ ih => exact ih.note text

theorem alike_parseWithin (hg : ∀ r, (g r).SameButForMessages (g' r)) (depth : Nat)
    (hp : p.SameButForMessages p') :
    Alike butForCauses (parseWithin g depth p) (parseWithin g' depth p') := by
  induction depth generalizing α with
  | zero => exact hp.alike fun _ _ _ _ => .breakdown _
  | succ depth ih => exact hp.alike fun r => ih (hg r)

/-- Of two parsers that are the same but for messages, with rules that are, one returns
where the other one does, at any cursor.  Then they end alike, with the same records.  When
whole runs return, only the last record can differ, and it sums up how each of them ended. -/
theorem sameButForMessages_endsAs (hg : ∀ r, (g r).SameButForMessages (g' r))
    (hp : p.SameButForMessages p') :
    (∀ c, (∃ x, Returns g p c x) ↔ ∃ y, Returns g' p' c y) ∧
    (∀ c o o' log log', Returns g p c (o, log) → Returns g' p' c (o', log') →
      o.EndsAs o' ∧ log = log') ∧
    (∀ text index depth depth' o o' log log',
      runAt g depth p text index = .ok (o, log) →
      runAt g' depth' p' text index = .ok (o', log') →
      o.EndsAs o' ∧ ∃ records,
        log = records ++ [o.summary (Cursor.ofOffset text index).offset] ∧
        log' = records ++ [o'.summary (Cursor.ofOffset text index).offset]) := by
  have halike (c : Cursor) (depth : Nat) :
      (parseWithin g depth p c).Alike butForCauses (parseWithin g' depth p' c) :=
    alike_parseWithin hg depth hp c c rfl
  have hends : ∀ c o o' log log', Returns g p c (o, log) → Returns g' p' c (o', log') →
      o.EndsAs o' ∧ log = log' := by
    intro c o o' log log' hr hr'
    obtain ⟨depth, hdepth⟩ := hr
    obtain ⟨o'', hrun, hend⟩ := (halike c depth).exists_ok hdepth
    obtain ⟨rfl, rfl⟩ := Prod.mk.inj (Returns.unique ⟨depth, hrun⟩ hr')
    exact ⟨hend, rfl⟩
  refine ⟨fun c => ⟨?_, ?_⟩, hends, ?_⟩
  · intro h
    obtain ⟨x, depth, hx⟩ := h
    obtain ⟨o, hrun, -⟩ := (halike c depth).exists_ok hx
    exact ⟨_, depth, hrun⟩
  · intro h
    obtain ⟨y, depth, hy⟩ := h
    obtain ⟨o, hrun, -⟩ := (halike c depth).symm_butForCauses.exists_ok hy
    exact ⟨_, depth, hrun⟩
  · intro text index depth depth' o o' log log' hr hr'
    obtain ⟨records, hrun, rfl⟩ := Run.record_eq_ok_iff.mp hr
    obtain ⟨records', hrun', rfl⟩ := Run.record_eq_ok_iff.mp hr'
    obtain ⟨hend, rfl⟩ := hends _ _ _ _ _ ⟨depth, hrun⟩ ⟨depth', hrun'⟩
    exact ⟨hend, records, rfl, rfl⟩

end Parser

/-! ## An instance -/

namespace Nested

open TextGrammar.Parser

/-- The nested grammar with labels on the whole, on a literal and on the call of the rule. -/
def labelled : Grammar signature := fun r =>
  .label (.orElse (.map (.between (.label (.literal ['(']) "an opening parenthesis")
      (.literal [')']) (.label (.rule r) "a nest")) (· + 1))
    (.map (.literal ['x']) fun _ => 0)) "a nest"

theorem grammar_sameButForMessages (r : signature.Rule) :
    (grammar r).SameButForMessages (labelled r) :=
  .labelRight _ (.orElse (.map _ (.between (.labelRight _ (.literal _)) (.literal _)
    (.labelRight _ (.rule r)))) (.map _ (.literal _)))

/-- A nest of even depth, behind a repetition that consumes nothing. -/
def evenNest (message : String) : Parser signature Nat :=
  .chain (.many (.succeed ())) fun _ => .filter (.rule ()) (fun n => n % 2 == 0) message

/-- The same with other words, one of them on what the continuation selects. -/
def evenNestInWords (message : String) : Parser signature Nat :=
  .chain (.many (.succeed ())) fun _ =>
    .label (.filter (.label (.rule ()) "a nest") (fun n => n % 2 == 0) "an odd nest") message

theorem evenNest_sameButForMessages (m m' : String) :
    (evenNest m).SameButForMessages (evenNestInWords m') :=
  .chain (.many (.succeed ())) fun _ =>
    .labelRight _ (.filter _ _ _ (.labelRight _ (.rule (S := signature) ())))

/-- `(x)` is of odd depth.  Both say so at the start, in their own words, and with the record
of the repetition before that. -/
theorem evenNest_endsAs :
    (∀ r, (grammar r).SameButForMessages (labelled r)) ∧
    (evenNest "odd").SameButForMessages (evenNestInWords "not even") ∧
    (∃ x, Returns labelled (evenNestInWords "not even") (.start ['(', 'x', ')']) x) ∧
    runAt grammar 3 (evenNest "odd") ['(', 'x', ')'] 0 =
      .ok (.failure ⟨.message "odd", ⟨['(', 'x', ')'], 0⟩⟩,
        [.repetitionEnded 0, .failed 0 0 "odd"]) ∧
    ∀ o log, runAt labelled 3 (evenNestInWords "not even") ['(', 'x', ')'] 0 = .ok (o, log) →
      Outcome.EndsAs (.failure ⟨.message "odd", ⟨['(', 'x', ')'], 0⟩⟩) o ∧
      log = [.repetitionEnded 0, o.summary 0] := by
  have hg := grammar_sameButForMessages
  have hp := evenNest_sameButForMessages "odd" "not even"
  obtain ⟨hreturns, -, hruns⟩ := sameButForMessages_endsAs hg hp
  have hrun : runAt grammar 3 (evenNest "odd") ['(', 'x', ')'] 0 =
      .ok (.failure ⟨.message "odd", ⟨['(', 'x', ')'], 0⟩⟩,
        [.repetitionEnded 0, .failed 0 0 "odd"]) := rfl
  refine ⟨hg, hp, (hreturns _).mp ⟨_, 3, rfl⟩, hrun, fun o log ho => ?_⟩
  obtain ⟨hend, records, hlog, hlog'⟩ := hruns _ _ _ _ _ _ _ _ hrun ho
  have hrecords : [Record.repetitionEnded 0] = records := List.append_cancel_right hlog
  rw [← hrecords] at hlog'
  exact ⟨hend, hlog'⟩

end Nested
end TextGrammar
