/-
Parsers do what their expressions say.

For a parser that reads as an expression, a derivation of the expression within a bound and
a quiet run within the same bound are the same thing.  This goes by induction on the bound,
and within it on the parser.  As a run that returns returns the same under every greater
bound, derivations in general and quiet results in general agree as well.
-/
import TextGrammar.Proofs.Containment
import TextGrammar.Proofs.Depth
import TextGrammar.Proofs.Pattern.Threads
import TextGrammar.Proofs.Peg.Reading
import TextGrammar.Proofs.Peg.Realisation

namespace TextGrammar
namespace Parser

open Recogniser Peg

variable {S : Signature} {α : Type} {g : Grammar S} {G : S.Rule → Peg S.Rule} {t : Text}
  {n : Nat} {call : (r : S.Rule) → Recogniser (S.Result r)} {allowed : Breakdown → Prop}

theorem forward_denote (hcall : ∀ m r, (call r).SafeBelow allowed m) (p : Parser S α) :
    (denote call p).Forward :=
  forward_of_safeBelow fun m => safeBelow_denote hcall m p

/-- If rules realise nonterminals, then parsers realise the expressions that they read as. -/
theorem realises_denote (hE : S.engine.LeftmostFirst "\\s*")
    (hsafe : ∀ m r, (call r).SafeBelow allowed m)
    (hcall : ∀ r, Realises G t n (nonterminal r) (call r)) {p : Parser S α} {e : Peg S.Rule}
    (h : p.ReadsAs e) : Realises G t n e (denote call p) := by
  have hforward {β : Type} (q : Parser S β) : (denote call q).Forward := forward_denote hsafe q
  induction h with
  | literal s => exact realises_literal s
  | pattern x => exact realises_pattern x
  | succeed v => exact realises_succeed v
  | fail m => exact realises_fail (.message m)
  | endOfInput => exact realises_endOfInput
  | map f _ ih => exact ih.of_ends_iff fun _ _ _ => Run.endsQuietly_andThen_success_iff
  | orElse _ _ ihp ihq => exact ihp.orElse (hforward _) ihq
  | keepRight _ _ ihp ihq => exact ihp.andThen (hforward _) fun _ => ihq
  | keepLeft _ _ ihp ihq => exact ihp.followedBy (hforward _) ihq
  | many _ ih => exact ih.many (hforward _)
  | many1 _ ih => exact ih.many1 (hforward _)
  | optional _ ih => exact ih.optional (hforward _)
  | trim _ ih => exact ih.trim hE (hforward _)
  | sepBy _ _ ihp ihsep => exact ihp.sepBy (hforward _) ihsep (hforward _)
  | between _ _ _ iho ihc ihp =>
    exact iho.andThen (hforward _) fun _ => ihp.followedBy (hforward _) ihc
  | choice _ ih => exact realises_choices (forall₂_ofFn fun i => ⟨ih i, hforward _⟩)
  | sequence _ ih => exact realises_seqs (forall₂_ofFn fun i => ⟨ih i, hforward _⟩)
  | notAhead _ ih => exact ih.notAhead (hforward _) .unexpectedMatch
  | lookAhead _ ih => exact ih.lookAhead (hforward _)
  | label m _ ih => exact ih.of_ends_iff fun _ _ _ => Run.endsQuietly_resolve_success_iff
  | withSpan _ ih => exact ih.of_ends_iff fun _ _ _ => Run.endsQuietly_andThen_success_iff
  | rule r => exact hcall r
  | tap name _ ih => exact ih.of_ends_iff fun _ _ _ => Run.endsQuietly_record_iff fun _ => rfl
  | note text _ ih => exact ih.of_ends_iff fun _ _ _ => Run.endsQuietly_andThen_noted_iff

theorem realises_parseWithin (hE : S.engine.LeftmostFirst "\\s*")
    (hg : ∀ r, (g r).ReadsAs (G r)) {p : Parser S α}
    {e : Peg S.Rule} (h : p.ReadsAs e) : Realises G t n e (parseWithin g n p) := by
  induction n generalizing α p e with
  | zero =>
    refine realises_denote hE (fun m _ => safeBelow_nestingTooDeep m) (fun r c hc ht o => ?_) h
    exact iff_of_false not_within_zero_nonterminal Run.not_endsQuietly_error
  | succ n ih =>
    refine realises_denote hE (fun m r => safeBelow_parseWithin g n m (g r))
      (fun r c hc ht o => ?_) h
    rw [within_succ_nonterminal_iff]
    exact ih (hg r) c hc ht o

/-- The expression that a parser reads as has a derivation that ends at `j` if and only if
the parser returns a success at `j` without a record of an item that consumed nothing, and
a derivation of failure if and only if the parser returns an error without such a record.  The
engine has to match white space, which may be empty, wherever a trimmed parser looks for it. -/
theorem derives_iff_returns (hE : S.engine.LeftmostFirst "\\s*")
    (hg : ∀ r, (g r).ReadsAs (G r)) {p : Parser S α} {e : Peg S.Rule}
    (hp : p.ReadsAs e) {c : Cursor} (hc : c.OnBoundary) :
    (∀ j, Derives G c.text e c.offset (some j) ↔
      ∃ v log, Returns g p c (.success v ⟨c.text, j⟩, log) ∧ Quiet log) ∧
    (Derives G c.text e c.offset none ↔
      ∃ f log, Returns g p c (.failure f, log) ∧ Quiet log) := by
  have hends (o : Option Nat) : Derives G c.text e c.offset o ↔
      ∃ depth, (parseWithin g depth p c).EndsQuietly o := by
    rw [derives_iff_exists_within]
    exact exists_congr fun depth => realises_parseWithin hE hg hp c hc rfl o
  refine ⟨fun j => (hends (some j)).trans ⟨?_, ?_⟩, (hends none).trans ⟨?_, ?_⟩⟩
  · intro h
    obtain ⟨depth, hquiet⟩ := h
    obtain ⟨v, next, ⟨log, hrun, hlog⟩, rfl⟩ := Run.endsQuietly_some_iff.mp hquiet
    have hreach := (safe_parseWithin g depth p hc).reaches ⟨log, hrun⟩
    have htext : next.text = c.text := hreach.text_eq
    refine ⟨v, log, ⟨depth, ?_⟩, hlog⟩
    rw [hrun, ← htext]
  · intro h
    obtain ⟨v, log, ⟨depth, hrun⟩, hlog⟩ := h
    exact ⟨depth, Run.endsQuietly_some_iff.mpr ⟨v, _, ⟨log, hrun, hlog⟩, rfl⟩⟩
  · intro h
    obtain ⟨depth, hquiet⟩ := h
    obtain ⟨f, log, hrun, hlog⟩ := Run.endsQuietly_none_iff.mp hquiet
    exact ⟨f, log, ⟨depth, hrun⟩, hlog⟩
  · intro h
    obtain ⟨f, log, ⟨depth, hrun⟩, hlog⟩ := h
    exact ⟨depth, Run.endsQuietly_none_iff.mpr ⟨f, log, hrun, hlog⟩⟩

/-- Brackets are derived because they are parsed. -/
theorem nested_derives :
    Nested.signature.engine.LeftmostFirst "\\s*" ∧
    (∀ r, (Nested.grammar r).ReadsAs (Nested.rules r)) ∧
    (rule () : Parser Nested.signature Nat).ReadsAs (nonterminal ()) ∧
    (Cursor.start ['(', 'x', ')']).OnBoundary ∧
    Derives Nested.rules ['(', 'x', ')'] (nonterminal ()) 0 (some 3) ∧
    Derives Nested.rules ['(', 'x', ')'] (nonterminal ()) 1 (some 2) := by
  have hc : (Cursor.start ['(', 'x', ')']).OnBoundary := Text.isBoundary_zero _
  have hc' : (Cursor.mk ['(', 'x', ')'] 1).OnBoundary := ⟨['('], ['x', ')'], rfl, rfl⟩
  have hp : (rule () : Parser Nested.signature Nat).ReadsAs (nonterminal ()) :=
    ReadsAs.rule (S := Nested.signature) ()
  have hE : Nested.signature.engine.LeftmostFirst "\\s*" :=
    Engine.leftmostFirst_threads_builtIn .whitespace
  refine ⟨hE, Nested.readsAs_grammar, hp, hc, ?_, ?_⟩
  · exact ((derives_iff_returns hE Nested.readsAs_grammar hp hc).1 3).mpr
      ⟨1, [], ⟨3, rfl⟩, quiet_nil⟩
  · exact ((derives_iff_returns hE Nested.readsAs_grammar hp hc').1 2).mpr
      ⟨0, [], ⟨3, rfl⟩, quiet_nil⟩

end Parser
end TextGrammar
