/-
White space.  The table is short and written out, so that statements about blanks
can be settled by evaluation.
-/
import TextGrammar.CharSet

namespace TextGrammar
namespace Unicode

/-- The characters with the property White_Space. -/
def whiteSpace : CharSet := .ofRanges
  [(0x9, 0xD), (0x20, 0x20), (0x85, 0x85), (0xA0, 0xA0), (0x1680, 0x1680), (0x2000, 0x200A),
    (0x2028, 0x2029), (0x202F, 0x202F), (0x205F, 0x205F), (0x3000, 0x3000)]

def isBlank (c : Char) : Bool := whiteSpace.contains c

end Unicode
end TextGrammar
