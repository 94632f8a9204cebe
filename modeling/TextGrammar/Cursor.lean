/-
A place in a text.

A cursor holds the whole text and a byte offset.  `advance` moves by any number
of bytes and so may leave the cursor inside a character; reading there is
impossible, and `rest?`, `peek?`, `next?` and `sliceTo?` answer `none`.
-/
import TextGrammar.Location

namespace TextGrammar

structure Cursor where
  text : Text
  offset : Nat
deriving DecidableEq, Repr

namespace Cursor

def location (c : Cursor) : Location := ⟨c.text, c.offset⟩

def start (t : Text) : Cursor := ⟨t, 0⟩

/-- The first place between two characters at or after `n`, and the end of the
text when `n` lies past it. -/
def ofOffset (t : Text) (n : Nat) : Cursor := ⟨t, t.ceil n⟩

/-- The number of bytes from the cursor to the end. -/
def remaining (c : Cursor) : Nat := c.text.size - c.offset

def atEnd (c : Cursor) : Bool := c.offset == c.text.size

def rest? (c : Cursor) : Option Text := c.text.dropBytes? c.offset

/-- The character in front of the cursor, if there is one, and the text after it. -/
def surroundings? (c : Cursor) : Option (Option Char × Text) :=
  Text.splitAt? none c.text c.offset

/-- The next character; the inner `none` means the end of the text. -/
def peek? (c : Cursor) : Option (Option Char) := c.rest?.map List.head?

/-- Move by `n` bytes, but not past the end. -/
def advance (c : Cursor) (n : Nat) : Cursor :=
  { c with offset := min (c.offset + n) c.text.size }

/-- Move past the next character.  At the end the cursor stays. -/
def next? (c : Cursor) : Option Cursor :=
  c.peek?.map fun
    | some ch => c.advance ch.utf8Size
    | none => c

/-- The text from this cursor to another one, empty if the other one is before
it.  Both have to be between characters, even then. -/
def sliceTo? (c d : Cursor) : Option Text :=
  c.text.slice? c.offset (max d.offset c.offset)

end Cursor
end TextGrammar
