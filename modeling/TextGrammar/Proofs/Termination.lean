/-
Parsing with guarded grammars returns.

Between two nested calls of rules a guard consumes text, so calls nest no deeper than text
is left, and one call more that the parser itself makes.  Within a call the loops end by
themselves.
-/
import TextGrammar.Proofs.Depth
import TextGrammar.Proofs.Nested

namespace TextGrammar
namespace Parser

variable {S : Signature} {α : Type} {g : Grammar S}

/-- A guarded parser needs no more nested calls than there are bytes left. -/
theorem safeBelow_of_guarded (hg : ∀ r, (g r).Guarded) (depth : Nat) {p : Parser S α}
    (hp : p.Guarded) : (parseWithin g depth p).SafeBelow (fun _ => False) (depth + 1) := by
  induction depth generalizing α p with
  | zero => exact denote_safe (fun _ => Recogniser.safeBelow_zero _) (.inl hp)
  | succ depth ih => exact denote_safe (fun r => ih (hg r)) (.inl hp)

theorem safeBelow_of_guarded_grammar (hg : ∀ r, (g r).Guarded) (depth : Nat)
    (p : Parser S α) :
    (parseWithin g (depth + 1) p).SafeBelow (fun _ => False) (depth + 1) := by
  have hcall (r : S.Rule) := safeBelow_of_guarded hg depth (hg r)
  exact denote_safe (fun r => (hcall r).mono (Nat.le_succ depth)) (.inr hcall)

/-- With guarded rules every parser returns from every boundary, and calls are never nested
more deeply than the number of bytes left and one: this bound is enough, and every greater
one gives the same outcome and the same log. -/
theorem parseWithin_returns (hg : ∀ r, (g r).Guarded) (p : Parser S α) {c : Cursor}
    (hc : c.OnBoundary) :
    ∃ o log, ∀ depth, c.remaining + 1 ≤ depth → parseWithin g depth p c = .ok (o, log) := by
  have hsafe := safeBelow_of_guarded_grammar hg c.remaining p c hc (Nat.lt_succ_self _)
  cases hrun : parseWithin g (c.remaining + 1) p c with
  | error b =>
    rw [hrun] at hsafe
    exact hsafe.elim
  | ok x => exact ⟨x.1, x.2, fun depth hle => parseWithin_mono hrun hle⟩

/-- Five bytes, so six nested calls are enough for any parser with this grammar. -/
theorem nested_returns :
    (∀ r, (Nested.grammar r).Guarded) ∧ (Cursor.start ['(', '(', 'x', ')', ')']).OnBoundary ∧
    ∀ depth, 6 ≤ depth →
      parseWithin Nested.grammar depth (many (rule ())) (.start ['(', '(', 'x', ')', ')']) =
        .ok (.success [2] ⟨['(', '(', 'x', ')', ')'], 5⟩, []) := by
  have hc : (Cursor.start ['(', '(', 'x', ')', ')']).OnBoundary := Text.isBoundary_zero _
  obtain ⟨o, log, hreturns⟩ := parseWithin_returns Nested.guarded_grammar (many (rule ())) hc
  refine ⟨Nested.guarded_grammar, hc, fun depth hdepth => ?_⟩
  rw [hreturns depth hdepth, ← hreturns 6 (Nat.le_refl 6)]
  rfl

end Parser
end TextGrammar
