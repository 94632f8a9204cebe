/-
Walks over a text.

A walk is a current cursor and a saved one.  Each step moves the current cursor,
or copies one of the two onto the other.
-/
import TextGrammar.Cursor

namespace TextGrammar
namespace Cursor

structure Walk where
  current : Cursor
  saved : Cursor
deriving DecidableEq, Repr

inductive Step where
  | next
  | advance (bytes : Nat)
  | save
  | restore
deriving DecidableEq, Repr

namespace Walk

/-- A walk that stands on `c` and has saved it. -/
def beginAt (c : Cursor) : Walk := ⟨c, c⟩

/-- One step.  Only `next` can be impossible, from inside a character. -/
def step? (w : Walk) : Step → Option Walk
  | .next => w.current.next?.map ({ w with current := · })
  | .advance n => some { w with current := w.current.advance n }
  | .save => some { w with saved := w.current }
  | .restore => some { w with current := w.saved }

end Walk
end Cursor
end TextGrammar
