/-
Parsers as parsing expressions.

`ReadsAs` says which expression a parser stands for.  What a parser does with values has no
counterpart there, so parsers whose values decide how to go on stand for none.
-/
import TextGrammar.Proofs.Nested
import TextGrammar.Proofs.Peg.Derivation

namespace TextGrammar
namespace Parser

variable {S : Signature}

inductive ReadsAs : {α : Type} → Parser S α → Peg S.Rule → Prop where
  | literal (t : Text) : ReadsAs (literal t) (.terminal (.literal t))
  | pattern (p : Pattern) : ReadsAs (pattern p) (.terminal (.pattern p))
  | succeed {α : Type} (v : α) : ReadsAs (succeed v) .empty
  | fail {α : Type} (m : String) : ReadsAs (fail m : Parser S α) .fail
  | endOfInput : ReadsAs endOfInput .endOfInput
  | map {α β : Type} {p : Parser S α} {e : Peg S.Rule} (f : α → β) :
    ReadsAs p e → ReadsAs (map p f) e
  | orElse {α : Type} {p q : Parser S α} {a b : Peg S.Rule} :
    ReadsAs p a → ReadsAs q b → ReadsAs (orElse p q) (.choice a b)
  | keepRight {α β : Type} {p : Parser S α} {q : Parser S β} {a b : Peg S.Rule} :
    ReadsAs p a → ReadsAs q b → ReadsAs (keepRight p q) (.seq a b)
  | keepLeft {α β : Type} {p : Parser S α} {q : Parser S β} {a b : Peg S.Rule} :
    ReadsAs p a → ReadsAs q b → ReadsAs (keepLeft p q) (.seq a b)
  | many {α : Type} {p : Parser S α} {e : Peg S.Rule} : ReadsAs p e → ReadsAs (many p) (.star e)
  | many1 {α : Type} {p : Parser S α} {e : Peg S.Rule} :
    ReadsAs p e → ReadsAs (many1 p) (.plus e)
  | optional {α : Type} {p : Parser S α} {e : Peg S.Rule} :
    ReadsAs p e → ReadsAs (optional p) (.optional e)
  | trim {α : Type} {p : Parser S α} {e : Peg S.Rule} :
    ReadsAs p e →
    ReadsAs (trim p) (.seq (.whitespace S.engine) (.seq e (.whitespace S.engine)))
  /-- An item and any number of further ones, each after a separator, or nothing. -/
  | sepBy {α β : Type} {p : Parser S α} {sep : Parser S β} {a b : Peg S.Rule} :
    ReadsAs p a → ReadsAs sep b →
    ReadsAs (sepBy p sep) (.optional (.seq a (.star (.seq b a))))
  | between {α β γ : Type} {opening : Parser S α} {closing : Parser S β} {p : Parser S γ}
    {a b e : Peg S.Rule} :
    ReadsAs opening a → ReadsAs closing b → ReadsAs p e →
    ReadsAs (between opening closing p) (.seq a (.seq e b))
  | choice {α : Type} {n : Nat} {ps : Fin n → Parser S α} {es : Fin n → Peg S.Rule} :
    (∀ i, ReadsAs (ps i) (es i)) → ReadsAs (choice ps) (.choices (List.ofFn es))
  | sequence {α : Type} {n : Nat} {ps : Fin n → Parser S α} {es : Fin n → Peg S.Rule} :
    (∀ i, ReadsAs (ps i) (es i)) → ReadsAs (sequence ps) (.seqs (List.ofFn es))
  | notAhead {α : Type} {p : Parser S α} {e : Peg S.Rule} :
    ReadsAs p e → ReadsAs (notAhead p) (.notAhead e)
  | lookAhead {α : Type} {p : Parser S α} {e : Peg S.Rule} :
    ReadsAs p e → ReadsAs (lookAhead p) (.lookAhead e)
  | label {α : Type} {p : Parser S α} {e : Peg S.Rule} (m : String) :
    ReadsAs p e → ReadsAs (label p m) e
  | withSpan {α : Type} {p : Parser S α} {e : Peg S.Rule} : ReadsAs p e → ReadsAs (withSpan p) e
  | rule (r : S.Rule) : ReadsAs (rule r) (.nonterminal r)
  | tap {α : Type} {p : Parser S α} {e : Peg S.Rule} (name : String) :
    ReadsAs p e → ReadsAs (tap name p) e
  | note {α : Type} {p : Parser S α} {e : Peg S.Rule} (text : α → String) :
    ReadsAs p e → ReadsAs (note p text) e

end Parser

namespace Nested

open Peg

/-- The rule of the nested grammar as an expression. -/
def rules (r : signature.Rule) : Peg signature.Rule :=
  choice (seq (terminal (.literal ['('])) (seq (nonterminal r) (terminal (.literal [')']))))
    (terminal (.literal ['x']))

theorem readsAs_grammar (r : signature.Rule) : (grammar r).ReadsAs (rules r) :=
  .orElse (.map _ (.between (.literal _) (.literal _) (.rule r))) (.map _ (.literal _))

end Nested
end TextGrammar
