/-
Values of blueprints.

Parsers that are described by data rather than by definitions yield values of one
type.  Integers are kept between the limits of 64 bits with a sign.
-/
import TextGrammar.Span

namespace TextGrammar

inductive Value where
  | unit
  | bool (b : Bool)
  | int (n : Int)
  | text (t : Text)
  | list (vs : List Value)
  | none
  | some (v : Value)
  /-- A value with the range of text it was read from. -/
  | spanned (v : Value) (span : Span)
deriving Repr

namespace Value

mutual
/-- Equality of structure; values of different kinds differ. -/
def equal : Value → Value → Bool
  | unit, unit => true
  | bool a, bool b => a == b
  | int a, int b => a == b
  | text a, text b => a == b
  | list a, list b => equalLists a b
  | none, none => true
  | some a, some b => equal a b
  | spanned a s, spanned b t => equal a b && s == t
  | _, _ => false

def equalLists : List Value → List Value → Bool
  | [], [] => true
  | a :: as, b :: bs => equal a b && equalLists as bs
  | _, _ => false
end

instance : BEq Value := ⟨equal⟩

mutual
/-- A value as text: the texts in it, one after the other. -/
def toText : Value → Text
  | unit | none => []
  | bool b => (if b then "true" else "false").toList
  | int n => (toString n).toList
  | text t => t
  | list vs => concat vs
  | some v => toText v
  | spanned v _ => toText v

def concat : List Value → Text
  | [] => []
  | v :: vs => toText v ++ concat vs
end

def ofOption : Option Value → Value
  | .none => none
  | .some v => some v

/-! ## Integers -/

/-- The greatest integer of 64 bits. -/
def greatest : Int := 9223372036854775807

/-- The least integer of 64 bits. -/
def least : Int := -9223372036854775808

/-- The nearest integer within the limits. -/
def saturate (n : Int) : Int := max least (min greatest n)

/-- The value of a nonempty text of decimal digits. -/
def natural? (t : Text) : Option Nat :=
  if !t.isEmpty && t.all Char.isDigit then
    .some (t.foldl (fun n d => 10 * n + (d.toNat - '0'.toNat)) 0)
  else .none

/-- The value of a numeral with at most one sign, within the limits. -/
def integer? (t : Text) : Option Int :=
  let n : Option Int := match t with
    | '-' :: digits => (natural? digits).map fun n => -(n : Int)
    | '+' :: digits => (natural? digits).map Int.ofNat
    | digits => (natural? digits).map Int.ofNat
  n.filter fun n => decide (least ≤ n ∧ n ≤ greatest)

end Value
end TextGrammar
