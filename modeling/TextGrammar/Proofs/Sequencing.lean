/-
Parsers in sequence.

All the ways to put one parser behind another say the same: the first one is run, and the run
goes on with what its value selects.  That is `chain`, and its laws are laws of runs.  A success
in front of a run leaves the run, a success behind it changes nothing, and a run that goes on
twice goes on once with the rest.

The other sequences only fix what is selected and which values are kept.  A condition on a value
is a sequence as well, but one that reports a value it rejects where the value begins.
-/
import TextGrammar.Proofs.Nested
import TextGrammar.Proofs.Taking

namespace TextGrammar

variable {α β γ : Type}

namespace Run

variable {r : Run α} {keep : α → Bool} {reject : Cursor → Run α} {next : Cursor} {v : α}
  {log : List Record}

theorem andThen_success_self (r : Run α) : r.andThen success = r := by
  rcases r with b | ⟨o, log⟩
  · rfl
  · cases o with
    | success v next => exact after_success log v next
    | failure f => exact after_failure log f

theorem andThen_andThen (r : Run α) (f : α → Cursor → Run β) (f' : β → Cursor → Run γ) :
    (r.andThen f).andThen f' = r.andThen fun v next => (f v next).andThen f' := by
  rw [andThen, andThen, resolve_resolve]
  simp only [resolve_failure]
  rfl

/-- The run, if its value is kept; what goes on from its end otherwise. -/
def keeping (r : Run α) (keep : α → Bool) (reject : Cursor → Run α) : Run α :=
  r.andThen fun v next => if keep v then success v next else reject next

theorem keeping_of_rejected (hr : r = .ok (.success v next, log)) (hv : keep v = false) :
    r.keeping keep reject = (reject next).after log := by
  rw [keeping, andThen_of_success hr, if_neg (Bool.eq_false_iff.mp hv)]

/-- Only a rejected value makes a difference. -/
theorem keeping_of_not_rejected
    (h : ∀ v next log, r = .ok (.success v next, log) → keep v = true) :
    r.keeping keep reject = r := by
  rcases r with b | ⟨o, log⟩
  · rfl
  · cases o with
    | failure f => exact after_failure log f
    | success v next =>
      rw [keeping, andThen_of_success rfl, if_pos (h v next log rfl), after_success]

end Run

namespace Recogniser

open Run

/-- A list of parts may be cut in two anywhere. -/
theorem sequence_append (ps qs : List (Recogniser α)) :
    sequence (ps ++ qs) = fun c =>
      (sequence ps c).andThen fun vs next =>
        (sequence qs next).andThen fun ws last => success (vs ++ ws) last := by
  induction ps with
  | nil =>
    funext c
    have hall : ((sequence qs c).andThen fun ws last => success ([] ++ ws) last) = sequence qs c :=
      andThen_success_self (sequence qs c)
    rw [List.nil_append, sequence, andThen_success, hall]
  | cons p ps ih =>
    funext c
    show ((p c).andThen fun v next => (sequence (ps ++ qs) next).andThen fun us last =>
        success (v :: us) last) =
      ((p c).andThen fun v next => (sequence ps next).andThen fun vs last =>
        success (v :: vs) last).andThen _
    simp only [ih, andThen_andThen, andThen_success, List.cons_append]

end Recogniser

namespace Parser

variable {S : Signature} {call : (r : S.Rule) → Recogniser (S.Result r)}

/-! ## Laws of `chain` -/

theorem denote_chain_of_succeed (v : α) (f : α → Parser S β) :
    denote call (chain (succeed v) f) = denote call (f v) :=
  funext fun c => Run.andThen_success v c fun v => denote call (f v)

theorem denote_chain_succeed (p : Parser S α) : denote call (chain p succeed) = denote call p :=
  funext fun c => Run.andThen_success_self (denote call p c)

theorem denote_chain_chain (p : Parser S α) (f : α → Parser S β) (f' : β → Parser S γ) :
    denote call (chain (chain p f) f') = denote call (chain p fun v => chain (f v) f') :=
  funext fun c => Run.andThen_andThen (denote call p c) _ _

/-! ## Other sequences -/

theorem denote_between (opening : Parser S β) (closing : Parser S γ) (p : Parser S α) :
    denote call (between opening closing p) =
      denote call (keepLeft (keepRight opening p) closing) :=
  funext fun c => (Run.andThen_andThen (denote call opening c) _ _).symm

theorem denote_inOrder_append (ps qs : List (Parser S α)) :
    denote call (inOrder (ps ++ qs)) =
      denote call (chain (inOrder ps) fun vs => map (inOrder qs) fun ws => vs ++ ws) := by
  show _ = fun c => (denote call (inOrder ps) c).andThen fun vs next =>
    (denote call (inOrder qs) next).andThen fun ws last => Run.success (vs ++ ws) last
  rw [denote_inOrder, denote_inOrder, denote_inOrder, List.map_append,
    Recogniser.sequence_append]

/-! ## Conditions -/

/-- A condition reports the beginning of what it rejects, -/
theorem denote_filter (p : Parser S α) (keep : α → Bool) (message : String) :
    denote call (filter p keep message) = fun c =>
      (denote call p c).keeping keep fun _ => Run.failAt c (.message message) := rfl

/-- and the sequence that says the same reports its end. -/
theorem denote_chain_condition (p : Parser S α) (keep : α → Bool) (message : String) :
    denote call (chain p fun v => if keep v then succeed v else fail message) = fun c =>
      (denote call p c).keeping keep fun next => Run.failAt next (.message message) := by
  funext c
  show (denote call p c).andThen _ = (denote call p c).andThen _
  congr 1
  funext v next
  dsimp only
  split
  · rfl
  · rfl

/-- All sequences are that of a parser and what its value selects.  A success selects at once, to
select a success changes nothing, and what is selected may itself be a sequence.  A function of
the value, a second part with either of the values, brackets, and a list of parts, cut in two
anywhere, are given by `chain` with the same outcome and the same records; and so is a condition,
but for the place of the failure when it rejects a value: this is where the value begins, and not
where it ends. -/
theorem sequences_agree_with_chain (g : Grammar S) (depth : Nat) :
    (∀ (v : α) (f : α → Parser S β),
      parseWithin g depth (chain (succeed v) f) = parseWithin g depth (f v)) ∧
    (∀ p : Parser S α, parseWithin g depth (chain p succeed) = parseWithin g depth p) ∧
    (∀ (p : Parser S α) (f : α → Parser S β) (f' : β → Parser S γ),
      parseWithin g depth (chain (chain p f) f') =
        parseWithin g depth (chain p fun v => chain (f v) f')) ∧
    (∀ (p : Parser S α) (h : α → β),
      parseWithin g depth (map p h) = parseWithin g depth (chain p fun v => succeed (h v))) ∧
    (∀ (p : Parser S α) (q : Parser S β),
      parseWithin g depth (keepRight p q) = parseWithin g depth (chain p fun _ => q)) ∧
    (∀ (p : Parser S α) (q : Parser S β),
      parseWithin g depth (keepLeft p q) =
        parseWithin g depth (chain p fun v => map q fun _ => v)) ∧
    (∀ (opening : Parser S β) (closing : Parser S γ) (p : Parser S α),
      parseWithin g depth (between opening closing p) =
        parseWithin g depth (keepLeft (keepRight opening p) closing)) ∧
    parseWithin g depth (inOrder ([] : List (Parser S α))) = parseWithin g depth (succeed []) ∧
    (∀ ps qs : List (Parser S α),
      parseWithin g depth (inOrder (ps ++ qs)) =
        parseWithin g depth (chain (inOrder ps) fun vs => map (inOrder qs) fun ws => vs ++ ws)) ∧
    (∀ (p : Parser S α) (keep : α → Bool) (message : String) (c : Cursor),
      ((∀ v next log, parseWithin g depth p c = .ok (.success v next, log) → keep v = true) →
        parseWithin g depth (filter p keep message) c =
          parseWithin g depth (chain p fun v => if keep v then succeed v else fail message) c) ∧
      ∀ v next log, parseWithin g depth p c = .ok (.success v next, log) → keep v = false →
        parseWithin g depth (filter p keep message) c =
          .ok (.failure ⟨.message message, c.location⟩, log) ∧
        parseWithin g depth (chain p fun v => if keep v then succeed v else fail message) c =
          .ok (.failure ⟨.message message, next.location⟩, log)) := by
  obtain ⟨call, hcall⟩ := exists_parseWithin_eq_denote g depth
  simp only [hcall]
  refine ⟨denote_chain_of_succeed, denote_chain_succeed, denote_chain_chain, fun _ _ => rfl,
    fun _ _ => rfl, fun _ _ => rfl, denote_between, ?_, denote_inOrder_append, ?_⟩
  · exact denote_inOrder []
  · intro p keep message c
    rw [denote_filter, denote_chain_condition]
    refine ⟨?_, ?_⟩
    · intro hkeep
      exact (Run.keeping_of_not_rejected hkeep).trans (Run.keeping_of_not_rejected hkeep).symm
    · intro v next log hp hv
      exact ⟨(Run.keeping_of_rejected hp hv).trans (Run.after_failure log _),
        (Run.keeping_of_rejected hp hv).trans (Run.after_failure log _)⟩

/-- A character of two bytes and two nests.  A condition that the second one breaks fails where
this one begins, and the sequence that says the same fails behind it.  A condition that it keeps
makes no difference, and the nests may be read in a list of their own each. -/
theorem nested_sequences :
    parseWithin Nested.grammar 3 (rule ()) ⟨['é', 'x', '(', 'x', ')'], 3⟩ =
      .ok (.success (1 : Nat) ⟨['é', 'x', '(', 'x', ')'], 6⟩, []) ∧
    parseWithin Nested.grammar 3 (filter (rule ()) (fun n : Nat => n == 0) "deep")
      ⟨['é', 'x', '(', 'x', ')'], 3⟩ =
      .ok (.failure ⟨.message "deep", ⟨['é', 'x', '(', 'x', ')'], 3⟩⟩, []) ∧
    parseWithin Nested.grammar 3
      (chain (rule ()) fun n : Nat => if n == 0 then succeed n else fail "deep")
      ⟨['é', 'x', '(', 'x', ')'], 3⟩ =
      .ok (.failure ⟨.message "deep", ⟨['é', 'x', '(', 'x', ')'], 6⟩⟩, []) ∧
    parseWithin Nested.grammar 3 (filter (rule ()) (fun n : Nat => n == 1) "not deep")
      ⟨['é', 'x', '(', 'x', ')'], 3⟩ =
      .ok (.success (1 : Nat) ⟨['é', 'x', '(', 'x', ')'], 6⟩, []) ∧
    parseWithin Nested.grammar 3 (inOrder ([rule ()] ++ [rule ()])) ⟨['é', 'x', '(', 'x', ')'], 2⟩ =
      .ok (.success [(0 : Nat), 1] ⟨['é', 'x', '(', 'x', ')'], 6⟩, []) := by
  obtain ⟨-, -, -, -, -, -, -, -, happend, hcondition⟩ :=
    sequences_agree_with_chain (α := Nat) (β := Nat) (γ := Nat) Nested.grammar 3
  have hp : parseWithin Nested.grammar 3 (rule ()) ⟨['é', 'x', '(', 'x', ')'], 3⟩ =
      .ok (.success (1 : Nat) ⟨['é', 'x', '(', 'x', ')'], 6⟩, []) := rfl
  obtain ⟨-, hrejected⟩ := hcondition (rule ()) (fun n : Nat => n == 0) "deep"
    ⟨['é', 'x', '(', 'x', ')'], 3⟩
  obtain ⟨hkept, -⟩ := hcondition (rule ()) (fun n : Nat => n == 1) "not deep"
    ⟨['é', 'x', '(', 'x', ')'], 3⟩
  obtain ⟨hfilter, hchain⟩ := hrejected 1 _ [] hp rfl
  refine ⟨hp, hfilter, hchain, ?_, ?_⟩
  · refine (hkept fun v next log h => ?_).trans rfl
    cases hp.symm.trans h
    rfl
  · rw [happend]
    rfl

end Parser
end TextGrammar
