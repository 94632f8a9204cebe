/-
Guarded parsers.

A guard is a literal of some text, possibly dressed.  A parser is guarded if it calls rules
only behind a guard.  `denote_safe` carries safety through every parser: given that rules
are safe below `n`, a guarded parser is safe below `n + 1`, and any other one is as well if
rules are safe there themselves.
-/
import TextGrammar.Parser.Meaning
import TextGrammar.Proofs.Safety

namespace TextGrammar
namespace Parser

variable {S : Signature} {α β : Type}

/-- A literal that is not empty, possibly trimmed, mapped or labelled. -/
def IsGuard : {α : Type} → Parser S α → Prop
  | _, literal t => t ≠ []
  | _, trim p => IsGuard p
  | _, map p _ => IsGuard p
  | _, label p _ => IsGuard p
  | _, _ => False

/-- Rules are called only behind a guard: in the second part of two or in a later part of a
sequence whose first part is a guard, or within brackets that open with one. -/
def Guarded : {α : Type} → Parser S α → Prop
  | _, literal _ | _, pattern _ | _, succeed _ | _, fail _ | _, endOfInput => True
  | _, rule _ => False
  | _, map p _ | _, filter p _ _ | _, many p | _, many1 p | _, optional p | _, trim p
  | _, notAhead p | _, lookAhead p | _, takeUntil p | _, label p _ | _, withSpan p
  | _, tap _ p | _, note p _ => Guarded p
  | _, chain p next => Guarded p ∧ ∀ v, Guarded (next v)
  | _, orElse p q | _, sepBy p q => Guarded p ∧ Guarded q
  | _, keepRight p q | _, keepLeft p q => Guarded p ∧ (IsGuard p ∨ Guarded q)
  | _, between opening closing p =>
    Guarded opening ∧ (IsGuard opening ∨ Guarded p ∧ Guarded closing)
  | _, choice ps => ∀ i, Guarded (ps i)
  | _, sequence (n := n) ps => (∃ h : 0 < n, IsGuard (ps ⟨0, h⟩)) ∨ ∀ i, Guarded (ps i)

variable {call : (r : S.Rule) → Recogniser (S.Result r)} {allowed : Breakdown → Prop} {n : Nat}

theorem IsGuard.guarded {p : Parser S α} (h : p.IsGuard) : p.Guarded := by
  induction p with
  | literal t => trivial
  | trim p ih => exact ih h
  | map p f ih => exact ih h
  | label p m ih => exact ih h
  | _ => exact h.elim

theorem IsGuard.advances {p : Parser S α} (h : p.IsGuard) : (denote call p).Advances := by
  induction p with
  | literal t => exact Recogniser.advances_literal h
  | trim p ih => exact (ih h).trim _
  | map p f ih =>
    intro c v next hc hy
    obtain ⟨w, d, hd, hy⟩ := Run.exists_of_yields_andThen hy
    obtain ⟨-, rfl⟩ := Run.yields_success hy
    exact ih h c w next hc hd
  | label p m ih =>
    intro c v next hc hy
    obtain ⟨w, d, hd, hy⟩ | ⟨e, hy⟩ := Run.exists_of_yields_resolve hy
    · obtain ⟨-, rfl⟩ := Run.yields_success hy
      exact ih h c w next hc hd
    · exact absurd hy Run.not_yields_failure
  | _ => exact h.elim

/-- Behind a guard, what follows is safe below `n` although rules are not known to be safe
further than that; elsewhere it is safe below `n + 1` by itself. -/
theorem safeAfter_of_guard {p : Parser S α} {q : Recogniser β}
    (hq : q.SafeBelow allowed n) (hq' : p.IsGuard ∨ q.SafeBelow allowed (n + 1)) :
    Recogniser.SafeAfter allowed (n + 1) (denote call p) q := by
  rcases hq' with hguard | hq'
  · exact hguard.advances.safeAfter hq
  · exact hq'.safeAfter

theorem tapped_offsets_reached {c : Cursor} (hc : c.OnBoundary) {o : Outcome α}
    (ho : c.Reaches o.location) (name : String) :
    ∀ i ∈ (Record.tapped name c.offset o.ending).offsets, c.Reaches ⟨c.text, i⟩ := by
  have hend : c.Reaches ⟨c.text, o.location.offset⟩ := ⟨rfl, ho.isBoundary, ho.le, ho.le_size⟩
  intro i hi
  cases o with
  | success v next =>
    obtain rfl | rfl : i = c.offset ∨ i = next.offset := by
      simpa [Record.offsets, Outcome.ending] using hi
    · exact hc.reaches
    · exact hend
  | failure f =>
    obtain rfl | rfl : i = c.offset ∨ i = f.position := by
      simpa [Record.offsets, Outcome.ending] using hi
    · exact hc.reaches
    · exact hend

/-- A parser is safe below `n + 1` if it is guarded, or rules are safe there. -/
theorem denote_safe {p : Parser S α} (hcall : ∀ r, (call r).SafeBelow allowed n)
    (hp : p.Guarded ∨ ∀ r, (call r).SafeBelow allowed (n + 1)) :
    (denote call p).SafeBelow allowed (n + 1) := by
  -- Behind a guard less is left, so there the claim is used for a smaller `n`.
  have below {β : Type} {q : Recogniser β}
      (h : ∀ {m : Nat}, (∀ r, (call r).SafeBelow allowed m) →
        (∀ r, (call r).SafeBelow allowed (m + 1)) → q.SafeBelow allowed (m + 1))
      {m : Nat} (hcall : ∀ r, (call r).SafeBelow allowed m) : q.SafeBelow allowed m := by
    cases m with
    | zero => exact Recogniser.safeBelow_zero q
    | succ m => exact h (fun r => (hcall r).mono (Nat.le_succ m)) hcall
  induction p generalizing n with
  | literal t => exact Recogniser.safeBelow_literal t
  | pattern p => exact Recogniser.safeBelow_pattern p
  | succeed v => exact Recogniser.safeBelow_succeed v
  | fail m => exact Recogniser.safeBelow_fail (.message m)
  | endOfInput => exact Recogniser.safeBelow_endOfInput
  | map p f ih =>
    exact (ih hcall hp).andThen fun v => (Recogniser.safeBelow_succeed (f v)).safeAfter
  | chain p next ih ihnext =>
    refine (ih hcall (hp.imp And.left id)).andThen fun v => Recogniser.SafeBelow.safeAfter ?_
    exact ihnext v hcall (hp.imp (fun h => h.2 v) id)
  | filter p keep m ih => exact (ih hcall hp).filter keep m
  | orElse p q ihp ihq =>
    intro c hc hlt
    refine (ihp hcall (hp.imp And.left id) c hc hlt).resolve
      (fun v _ _ h => Run.safe_success v h) (fun _ _ => ?_)
    exact ihq hcall (hp.imp And.right id) c hc hlt
  | keepRight p q ihp ihq =>
    refine (ihp hcall (hp.imp And.left id)).andThen fun _ => ?_
    refine safeAfter_of_guard (below (fun h h' => ihq h (.inr h')) hcall) ?_
    rcases hp with ⟨-, hguard | hq⟩ | hcall'
    · exact .inl hguard
    · exact .inr (ihq hcall (.inl hq))
    · exact .inr (ihq hcall (.inr hcall'))
  | keepLeft p q ihp ihq =>
    refine (ihp hcall (hp.imp And.left id)).andThen fun v => ?_
    refine safeAfter_of_guard ((below (fun h h' => ihq h (.inr h')) hcall).withValue v) ?_
    rcases hp with ⟨-, hguard | hq⟩ | hcall'
    · exact .inl hguard
    · exact .inr ((ihq hcall (.inl hq)).withValue v)
    · exact .inr ((ihq hcall (.inr hcall')).withValue v)
  | many p ih => exact (ih hcall hp).many
  | many1 p ih => exact (ih hcall hp).many1
  | optional p ih => exact (ih hcall hp).optional
  | trim p ih => exact (ih hcall hp).trim _
  | sepBy p sep ihp ihsep =>
    exact (ihp hcall (hp.imp And.left id)).sepBy (ihsep hcall (hp.imp And.right id))
  | between opening closing p iho ihc ihp =>
    refine (iho hcall (hp.imp And.left id)).andThen fun _ => ?_
    refine safeAfter_of_guard ((below (fun h h' => ihp h (.inr h')) hcall).followedBy
      (below (fun h h' => ihc h (.inr h')) hcall)) ?_
    rcases hp with ⟨-, hguard | ⟨hp, hc⟩⟩ | hcall'
    · exact .inl hguard
    · exact .inr ((ihp hcall (.inl hp)).followedBy (ihc hcall (.inl hc)))
    · exact .inr ((ihp hcall (.inr hcall')).followedBy (ihc hcall (.inr hcall')))
  | choice ps ih =>
    refine Recogniser.safeBelow_choice fun q hq => ?_
    obtain ⟨i, rfl⟩ := List.mem_ofFn.mp hq
    exact ih i hcall (hp.imp (fun h => h i) id)
  | @sequence α k ps ih =>
    obtain ⟨hk, hguard⟩ | hp : (∃ h : 0 < k, (ps ⟨0, h⟩).IsGuard) ∨
        ((∀ i, (ps i).Guarded) ∨ ∀ r, (call r).SafeBelow allowed (n + 1)) := or_assoc.mp hp
    · obtain ⟨k, rfl⟩ : ∃ k', k = k' + 1 := ⟨k - 1, by omega⟩
      show Recogniser.SafeBelow allowed (n + 1)
        (Recogniser.sequence (List.ofFn fun i => denote call (ps i)))
      rw [List.ofFn_succ]
      refine Recogniser.safeBelow_sequence_cons (ih 0 hcall (.inl hguard.guarded)) ?_
      refine safeAfter_of_guard (below (fun h h' => ?_) hcall) (.inl hguard)
      refine Recogniser.safeBelow_sequence fun q hq => ?_
      obtain ⟨i, rfl⟩ := List.mem_ofFn.mp hq
      exact ih i.succ h (.inr h')
    · refine Recogniser.safeBelow_sequence fun q hq => ?_
      obtain ⟨i, rfl⟩ := List.mem_ofFn.mp hq
      exact ih i hcall (hp.imp (fun h => h i) id)
  | notAhead p ih =>
    intro c hc hlt
    exact (ih hcall hp c hc hlt).resolve (fun _ _ _ _ => Run.safe_failAt hc _)
      (fun _ _ => Run.safe_success () hc.reaches)
  | lookAhead p ih =>
    intro c hc hlt
    exact (ih hcall hp c hc hlt).resolve (fun v _ _ _ => Run.safe_success v hc.reaches)
      (fun _ h => Run.safe_failure h)
  | takeUntil p ih => exact (ih hcall hp).takeUntil
  | label p m ih =>
    intro c hc hlt
    exact (ih hcall hp c hc hlt).resolve (fun v _ _ h => Run.safe_success v h)
      (fun _ h => Run.safe_failure h)
  | withSpan p ih =>
    intro c hc hlt
    exact (ih hcall hp c hc hlt).resolve (fun _ _ _ h => Run.safe_success _ h)
      (fun _ h => Run.safe_failure h)
  | rule r =>
    rcases hp with hfalse | hcall'
    · exact hfalse.elim
    · exact hcall' r
  | tap name p ih =>
    intro c hc hlt
    exact (ih hcall hp c hc hlt).record fun o ho => tapped_offsets_reached hc ho name
  | note p text ih =>
    refine (ih hcall hp).andThen fun v => Recogniser.SafeBelow.safeAfter ?_
    intro c hc _
    exact .after (Cursor.covers_singleton fun _ h => absurd h List.not_mem_nil)
      (Run.safe_success v hc.reaches)

/-- Where rules are safe everywhere, so is every parser. -/
theorem safeBelow_denote (hcall : ∀ m r, (call r).SafeBelow allowed m) (n : Nat)
    (p : Parser S α) : (denote call p).SafeBelow allowed n :=
  (denote_safe (hcall n) (.inr (hcall (n + 1)))).mono (Nat.le_succ n)

end Parser
end TextGrammar
