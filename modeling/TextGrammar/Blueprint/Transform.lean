/-
Functions on values, by name.

Each function concerns values of some kinds and leaves all others as they are.
-/
import TextGrammar.Blueprint.Value

namespace TextGrammar

inductive Transform where
  /-- The bytes of a text, the elements of a list. -/
  | length
  | toInteger
  | negate
  | add (n : Value)
  | upperCase
  | concat
  | const (v : Value)
  | wrap
  | reverse
  | first
  /-- The elements of the lists in a list, among its other elements. -/
  | flatten
  | sum
  /-- A number and steps that add, subtract or multiply. -/
  | calculate
deriving Repr

namespace Transform

def elements : Value → List Value
  | .list vs => vs
  | v => [v]

/-- The integers of a list, added from the left. -/
def total (vs : List Value) : Int :=
  vs.foldl (fun acc v => match v with
    | .int n => Value.saturate (acc + n)
    | _ => acc) 0

/-- One step of a calculation. -/
def stepOf (acc : Int) : Value → Int
  | .list [op, .int n] =>
    match op.toText with
    | ['+'] => Value.saturate (acc + n)
    | ['-'] => Value.saturate (acc - n)
    | ['*'] => Value.saturate (acc * n)
    | _ => acc
  | _ => acc

def apply : Transform → Value → Value
  | length, .text t => .int t.size
  | length, .list vs => .int vs.length
  | toInteger, v => .int ((Value.integer? v.toText).getD Value.greatest)
  | negate, .int n => .int (Value.saturate (-n))
  | add (.int k), .int n => .int (Value.saturate (n + k))
  | upperCase, .text t => .text (t.map Char.toUpper)
  | concat, v => .text v.toText
  | const v, _ => v
  | wrap, v => .list [v]
  | reverse, .text t => .text t.reverse
  | reverse, .list vs => .list vs.reverse
  | first, .list vs => .ofOption vs.head?
  | flatten, .list vs => .list (vs.flatMap elements)
  | sum, .list vs => .int (total vs)
  | calculate, .list [.int n, .list steps] => .int (steps.foldl stepOf n)
  | _, v => v

end Transform
end TextGrammar
