/-
The sets of characters that have names of their own in patterns.
-/
import TextGrammar.Unicode.Blank
import TextGrammar.Unicode.Mark
import TextGrammar.Unicode.Number
import TextGrammar.Unicode.Property.Alphabetic
import TextGrammar.Unicode.Property.Invisible
import TextGrammar.Unicode.Punctuation

namespace TextGrammar
namespace CharSet

def ascii : CharSet := .ofRanges [(0, 0x7F)]

def decimal : CharSet := Unicode.decimalNumber.set

def blank : CharSet := Unicode.whiteSpace

/-- The characters of words: letters, marks, digits, connecting punctuation and the
two join controls. -/
def word : CharSet :=
  unionAll [Unicode.alphabetic.set, Unicode.nonspacingMark.set, Unicode.spacingMark.set,
    Unicode.enclosingMark.set, Unicode.decimalNumber.set, Unicode.connectorPunctuation.set,
    Unicode.joinControl.set]

def asciiDecimal : CharSet := .ofRanges [(0x30, 0x39)]

def asciiBlank : CharSet := .ofRanges [(0x9, 0xD), (0x20, 0x20)]

def asciiWord : CharSet := .ofRanges [(0x30, 0x39), (0x41, 0x5A), (0x5F, 0x5F), (0x61, 0x7A)]

/-- The sets that are written `[:name:]` inside brackets. -/
def posix? : String → Option CharSet
  | "alnum" => some (.ofRanges [(0x30, 0x39), (0x41, 0x5A), (0x61, 0x7A)])
  | "alpha" => some (.ofRanges [(0x41, 0x5A), (0x61, 0x7A)])
  | "ascii" => some ascii
  | "blank" => some (.ofRanges [(0x9, 0x9), (0x20, 0x20)])
  | "cntrl" => some (.ofRanges [(0x0, 0x1F), (0x7F, 0x7F)])
  | "digit" => some asciiDecimal
  | "graph" => some (.ofRanges [(0x21, 0x7E)])
  | "lower" => some (.ofRanges [(0x61, 0x7A)])
  | "print" => some (.ofRanges [(0x20, 0x7E)])
  | "punct" => some (.ofRanges [(0x21, 0x2F), (0x3A, 0x40), (0x5B, 0x60), (0x7B, 0x7E)])
  | "space" => some asciiBlank
  | "upper" => some (.ofRanges [(0x41, 0x5A)])
  | "word" => some asciiWord
  | "xdigit" => some (.ofRanges [(0x30, 0x39), (0x41, 0x46), (0x61, 0x66)])
  | _ => none

end CharSet
end TextGrammar
