/-
What parsers look at.

Two things that a parser may use are not part of every correspondence of runs: patterns,
which see the character in front of a place, and ranges, which are made of absolute
offsets.  `Uses` says which of them occur in a parser.  `Uses.alike` is the one induction on
parsers that comparisons of two runs of the same parser need.
-/
import TextGrammar.Parser.Meaning
import TextGrammar.Proofs.Correspondence

namespace TextGrammar
namespace Parser

variable {S : Signature} {α : Type} {patterns : Pattern → Prop} {ranges : Prop}

/-- All patterns of a parser are among the given ones, and it asks for the range of a part
only if `ranges` holds. -/
def Uses (patterns : Pattern → Prop) (ranges : Prop) : {α : Type} → Parser S α → Prop
  | _, literal _ | _, succeed _ | _, fail _ | _, endOfInput | _, rule _ => True
  | _, pattern p => patterns p
  | _, withSpan p => ranges ∧ Uses patterns ranges p
  | _, map p _ | _, filter p _ _ | _, many p | _, many1 p | _, optional p | _, trim p
  | _, notAhead p | _, lookAhead p | _, takeUntil p | _, label p _ | _, tap _ p
  | _, note p _ => Uses patterns ranges p
  | _, chain p next => Uses patterns ranges p ∧ ∀ v, Uses patterns ranges (next v)
  | _, orElse p q | _, keepRight p q | _, keepLeft p q | _, sepBy p q =>
    Uses patterns ranges p ∧ Uses patterns ranges q
  | _, between opening closing p =>
    Uses patterns ranges opening ∧ Uses patterns ranges closing ∧ Uses patterns ranges p
  | _, choice ps | _, sequence ps => ∀ i, Uses patterns ranges (ps i)

theorem uses_any (p : Parser S α) : p.Uses (fun _ => True) True := by
  induction p with
  | literal _ | pattern _ | succeed _ | fail _ | endOfInput | rule _ => trivial
  | chain p next ih ihnext => exact ⟨ih, ihnext⟩
  | orElse p q ihp ihq | keepRight p q ihp ihq | keepLeft p q ihp ihq | sepBy p q ihp ihq =>
    exact ⟨ihp, ihq⟩
  | between opening closing p iho ihc ihp => exact ⟨iho, ihc, ihp⟩
  | choice ps ih | sequence ps ih => exact ih
  | withSpan p ih => exact ⟨trivial, ih⟩
  | map p _ ih | filter p _ _ ih | many p ih | many1 p ih | optional p ih | trim p ih
  | notAhead p ih | lookAhead p ih | takeUntil p ih | label p _ ih | tap _ p ih
  | note p _ ih => exact ih

open Recogniser

variable {σ : Correspondence} {call call' : (r : S.Rule) → Recogniser (S.Result r)}

/-- Matching meanings of rules give a parser matching meanings, provided that its patterns
cannot tell matching places apart and that these have the same offset if it asks for
ranges. -/
theorem Uses.alike (hranges : ranges → ∀ c d, σ.cursor c d → c.offset = d.offset)
    (hpatterns : ∀ p, patterns p → Alike σ (Recogniser.pattern p) (Recogniser.pattern p))
    (hwhite : Alike σ (Recogniser.pattern (S.engine.leaf .whitespace))
      (Recogniser.pattern (S.engine.leaf .whitespace)))
    (hcall : ∀ r, Alike σ (call r) (call' r)) {p : Parser S α} (hp : p.Uses patterns ranges) :
    Alike σ (denote call p) (denote call' p) := by
  induction p with
  | literal t => exact alike_literal t
  | pattern p => exact hpatterns p hp
  | succeed v => exact alike_succeed v
  | fail m => exact alike_fail _
  | endOfInput => exact alike_endOfInput
  | map p f ih => exact (ih hp).andThen fun v => alike_succeed (f v)
  | chain p next ih ihnext => exact (ih hp.1).andThen fun v => ihnext v (hp.2 v)
  | filter p keep m ih => exact (ih hp).filter keep m
  | orElse p q ihp ihq => exact (ihp hp.1).orElse (ihq hp.2)
  | keepRight p q ihp ihq => exact (ihp hp.1).andThen fun _ => ihq hp.2
  | keepLeft p q ihp ihq => exact (ihp hp.1).followedBy (ihq hp.2)
  | many p ih => exact (ih hp).many
  | many1 p ih => exact (ih hp).many1
  | optional p ih => exact (ih hp).optional
  | trim p ih => exact .trim hwhite (ih hp)
  | sepBy p sep ihp ihsep => exact (ihp hp.1).sepBy (ihsep hp.2)
  | between opening closing p iho ihc ihp =>
    exact (iho hp.1).andThen fun _ => (ihp hp.2.2).followedBy (ihc hp.2.1)
  | choice ps ih => exact alike_choice fun i => ih i (hp i)
  | sequence ps ih => exact alike_sequence fun i => ih i (hp i)
  | notAhead p ih => exact (ih hp).notAhead
  | lookAhead p ih => exact (ih hp).lookAhead
  | takeUntil p ih => exact (ih hp).takeUntil
  | label p m ih => exact (ih hp).label m
  | withSpan p ih => exact (ih hp.2).withSpan (hranges hp.1)
  | rule r => exact hcall r
  | tap name p ih => exact (ih hp).tap name
  | note p text ih => exact (ih hp).note text

end Parser
end TextGrammar
