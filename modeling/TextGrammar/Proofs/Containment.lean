/-
Where parsing goes.

Whatever a parser is made of, from a boundary it only gets to boundaries between its start
and the end of the text: with its outcome, with the failure it reports, and with every part
that it tries on the way.  So no text is ever cut inside a character.
-/
import TextGrammar.Proofs.Nested
import TextGrammar.Proofs.Watch

namespace TextGrammar
namespace Parser

variable {S : Signature} {α : Type}

theorem safeBelow_nestingTooDeep (n : Nat) :
    Recogniser.SafeBelow (· = .nestingTooDeep) n
      (fun _ => .error .nestingTooDeep : Recogniser α) :=
  fun _ _ _ => rfl

/-- In every grammar a parser breaks down only by calls that are nested too deeply. -/
theorem safeBelow_parseWithin (g : Grammar S) (depth n : Nat) (p : Parser S α) :
    (parseWithin g depth p).SafeBelow (· = .nestingTooDeep) n := by
  induction depth generalizing α n with
  | zero => exact safeBelow_denote (fun m _ => safeBelow_nestingTooDeep m) n p
  | succ depth ih => exact safeBelow_denote (fun m r => ih m (g r)) n p

theorem safe_parseWithin (g : Grammar S) (depth : Nat) (p : Parser S α) {c : Cursor}
    (hc : c.OnBoundary) : (parseWithin g depth p c).Safe (· = .nestingTooDeep) c :=
  safeBelow_parseWithin g depth _ p c hc (Nat.lt_succ_self _)

/-- From a boundary, such as that of any offset, parsing never cuts a character.  It ends
at a boundary of the same text, between its start and the end, and the same holds of every
place where a part is tried, or ends, on the way. -/
theorem parseWithin_contained (g : Grammar S) (depth : Nat) (p : Parser S α) (name : String)
    {c : Cursor} (hc : c.OnBoundary) :
    (∀ t i, (Cursor.ofOffset t i).OnBoundary) ∧
    (∀ b, parseWithin g depth p c = .error b → b = .nestingTooDeep) ∧
    (∀ o log, parseWithin g depth p c = .ok (o, log) → c.Reaches o.location) ∧
    (parseWithin (g.watched name) depth (p.watched name) c).untapped =
      (parseWithin g depth p c).untapped ∧
    (∀ o log, parseWithin (g.watched name) depth (p.watched name) c = .ok (o, log) →
      ∀ r ∈ log, ∀ n ∈ r.offsets, c.Reaches ⟨c.text, n⟩) := by
  have hsafe := safe_parseWithin g depth p hc
  have hwatched := safe_parseWithin (g.watched name) depth (p.watched name) hc
  refine ⟨Cursor.onBoundary_ofOffset, ?_, ?_, untapped_parseWithin_watched g depth name p c, ?_⟩
  · intro b hb
    rw [hb] at hsafe
    exact hsafe
  · intro o log ho
    rw [ho] at hsafe
    exact hsafe.1
  · intro o log ho
    rw [ho] at hwatched
    exact hwatched.2

/-- `(x)` behind a character of two bytes: every part is tried at the edge of a character. -/
theorem nested_contained :
    (Cursor.mk ['é', '(', 'x', ')'] 2).OnBoundary ∧
    ∃ o log, parseWithin (Nested.grammar.watched "part") 3 (Nested.nested.watched "part")
        ⟨['é', '(', 'x', ')'], 2⟩ = .ok (o, log) ∧
      log.length = 12 ∧
      ∀ r ∈ log, ∀ n ∈ r.offsets,
        (Cursor.mk ['é', '(', 'x', ')'] 2).Reaches ⟨['é', '(', 'x', ')'], n⟩ := by
  have hc : (Cursor.mk ['é', '(', 'x', ')'] 2).OnBoundary := ⟨['é'], ['(', 'x', ')'], rfl, rfl⟩
  obtain ⟨-, -, -, -, hrecords⟩ := parseWithin_contained Nested.grammar 3 Nested.nested "part" hc
  exact ⟨hc, _, _, rfl, rfl, hrecords _ _ rfl⟩

end Parser
end TextGrammar
