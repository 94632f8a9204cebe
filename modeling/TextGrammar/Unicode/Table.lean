/-
Tables of sets of characters in writing.

A table is a text with blanks between its words.  `AA` is one code point in
hexadecimal, `41-5A` a range with both ends included, and `100-12E/2` every second
code point of a range.  Words are in ascending order and have gaps between them.

The tables follow version 16 of the standard.
-/
import TextGrammar.CharSet
import TextGrammar.Text.Hex

namespace TextGrammar
namespace Unicode

abbrev Table := String

/-- The parts of a text between blanks and line feeds, without the empty ones. -/
def words (t : Text) : List Text :=
  let split := t.foldr (fun c (word, done) =>
    if c = ' ' ∨ c = '\n' then ([], word :: done) else (c :: word, done))
    (([], []) : Text × List Text)
  (split.1 :: split.2).filter (· ≠ [])

/-- The parts in front of and behind the first `sep`, the whole and nothing if there is
none. -/
def cut (sep : Char) (t : Text) : Text × Text :=
  let front := t.takeWhile (· ≠ sep)
  (front, t.drop (front.length + 1))

namespace Table

/-- The ranges of one word.  A word that is no range stands for nothing. -/
def rangesOfWord (w : Text) : List (Nat × Nat) :=
  let (first, rest) := cut '-' w
  let (last, step) := cut '/' rest
  match Text.hexValue? first, Text.hexValue? last, Text.hexValue? step with
  | some lo, some hi, some n =>
    if last = [] then [(lo, lo)]
    else if n = 0 then [(lo, hi)]
    else (List.range ((hi - lo) / n + 1)).map fun i => (lo + i * n, lo + i * n)
  | _, _, _ => []

def set (t : Table) : CharSet := .ofRanges ((words t.toList).flatMap rangesOfWord)

end Table

/-- A table with the names it is looked up by, which are in lower case and without
separators. -/
structure NamedTable where
  names : List String
  table : Table

/-- The set with a given name. -/
def lookUp? (l : List NamedTable) (name : String) : Option CharSet :=
  (l.find? fun e => e.names.contains name).map fun e => e.table.set

end Unicode
end TextGrammar
