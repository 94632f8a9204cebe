/-
A small recursive grammar: an `x` within parentheses, which are counted.
-/
import TextGrammar.Engine.Threads
import TextGrammar.Proofs.Guard

namespace TextGrammar
namespace Nested

abbrev signature : Signature := ⟨.threads, Unit, fun _ => Nat⟩

/-- The number of parentheses around an `x`. -/
def nested : Parser signature Nat :=
  .orElse (.map (.between (.literal ['(']) (.literal [')']) (.rule ())) (· + 1))
    (.map (.literal ['x']) fun _ => 0)

def grammar : Grammar signature := fun _ => nested

theorem guarded_grammar (r : signature.Rule) : (grammar r).Guarded :=
  ⟨⟨trivial, .inl (List.cons_ne_nil _ _)⟩, trivial⟩

end Nested
end TextGrammar
