/-
Conditions on values, by name.
-/
import TextGrammar.Blueprint.Value

namespace TextGrammar

inductive Condition where
  | nonempty
  | equal (v : Value)
  | oneOf (vs : Value)
  | noneOf (vs : Value)
  /-- Elements of a list, or bytes of the text of any other value. -/
  | lengthAtMost (n : Value)
  | even
deriving Repr

namespace Condition

def lengthOf : Value → Nat
  | .list vs => vs.length
  | v => Text.size v.toText

def holds : Condition → Value → Bool
  | nonempty, .list vs => !vs.isEmpty
  | nonempty, v => !v.toText.isEmpty
  | equal w, v => v == w
  | oneOf (.list vs), v => vs.contains v
  | noneOf (.list vs), v => !vs.contains v
  | lengthAtMost (.int n), v => decide ((lengthOf v : Int) ≤ n)
  | even, .int n => n % 2 == 0
  | _, _ => false

end Condition
end TextGrammar
