/-
Where something is reported.

A location is a text and an offset, which may lie past the end.  `coordinate?`
gives it as a line number and a byte offset in that line, and `excerptIn?` shows
the line with up to two lines on either side and a pointer below it.  Both are
`none` when the offset is inside a character.  There is no excerpt either when the
machine has no room for one of its entries, or stops while it counts the blanks in
front of the pointer.

Offsets within a line are counted in bytes.  A column would depend on the width
of tabs and of the characters before it.
-/
import TextGrammar.Machine
import TextGrammar.Text

namespace TextGrammar

structure Location where
  text : Text
  offset : Nat
deriving DecidableEq, Repr

structure Coordinate where
  /-- The line number, from one. -/
  line : Nat
  byteOffset : Nat
deriving DecidableEq, Repr

namespace Location

/-- The text in front of the location. -/
def before? (l : Location) : Option Text :=
  l.text.takeBytes? (min l.offset l.text.size)

def coordinate? (l : Location) : Option Coordinate :=
  l.before?.map fun t =>
    { line := t.count '\n' + 1, byteOffset := l.offset - t.lastLineStart }

/-- What stands in front of line `n` of an excerpt. -/
def margin (n : Nat) (marked : Bool) : String :=
  if marked then s!"  > {n} | " else s!"    {n} | "

/-- The head of a pointer.  Blanks in front of it bring it to its place. -/
def caret : String := "^--- here"

def pointer (blanks : Nat) : String := String.ofList (List.replicate blanks ' ') ++ caret

/-- The entries of an excerpt for line `n`: none if the line is more than two away
from the reported one, and the pointer as well if it is that one. -/
def entries (place : Coordinate) (blanks n : Nat) (content : Text) : List String :=
  if n < place.line - 2 ∨ place.line + 2 < n then []
  else
    let entry := margin n (n == place.line) ++ String.ofList content
    if n = place.line then [entry, pointer blanks] else [entry]

/-- The number of blanks that belong in front of the caret. -/
def pointerOffset (place : Coordinate) : Nat :=
  (margin place.line true).utf8ByteSize + place.byteOffset

/-- The blanks that `m` counts.  There are none if the pointer is too long for it, and
then no pointer is made. -/
def blanksIn? (m : Machine) (place : Coordinate) : Option Nat :=
  (m.word? (pointerOffset place)).filter fun blanks => blanks + caret.utf8ByteSize ≤ m.room

def excerptIn? (m : Machine) (l : Location) : Option (List String) :=
  (l.coordinate?.bind fun place => (blanksIn? m place).map fun blanks =>
    (l.text.lines.zipIdx 1).flatMap fun (content, n) => entries place blanks n content).filter
      fun entries => m.HasRoom entries

def excerpt? (l : Location) : Option (List String) := l.excerptIn? .strict

end Location
end TextGrammar
