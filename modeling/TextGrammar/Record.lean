/-
What a parser records while it runs.

Records are kept in the order in which they are made, also those of attempts that
come to nothing.
-/
import TextGrammar.Failure

namespace TextGrammar

/-- How an attempt ended: with a cursor moved to an offset, or with a failure at one. -/
inductive Ending where
  | success (offset : Nat)
  | failure (position : Nat)
deriving DecidableEq, Repr

inductive Record where
  /-- An item that consumed nothing ended a repetition. -/
  | repetitionEnded (offset : Nat)
  /-- A separator and an item that consumed nothing ended a list. -/
  | listEnded (offset : Nat)
  | succeeded (start stop : Nat)
  | failed (position start : Nat) (message : String)
  | tapped (name : String) (start : Nat) (ending : Ending)
  | noted (text : String)
deriving DecidableEq, Repr

namespace Record

def text : Record → String
  | repetitionEnded n => s!"zero-width match at offset {n} ends repetition"
  | listEnded n => s!"zero-width separator and item at offset {n} end list"
  | succeeded a b => s!"parse succeeded: offset {a} -> {b}"
  | failed e a m => s!"parse failed at offset {e} (started at {a}): " ++ m
  | tapped name a (.success b) => name ++ s!"@{a} -> {b}"
  | tapped name a (.failure e) => name ++ s!"@{a} -> fail@{e}"
  | noted t => t

/-- Records that parsers make by themselves, and not on behalf of `tap` or `note`. -/
def isOwn : Record → Bool
  | tapped .. | noted _ => false
  | _ => true

end Record
end TextGrammar
