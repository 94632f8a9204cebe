/-
Separators, controls and the like by general category.
-/
import TextGrammar.Unicode.Table

namespace TextGrammar
namespace Unicode

/-- Spaces. -/
def spaceSeparator : Table := "20 A0 1680 2000-200A 202F 205F 3000"

/-- The line separator. -/
def lineSeparator : Table := "2028"

/-- The paragraph separator. -/
def paragraphSeparator : Table := "2029"

/-- Control characters. -/
def control : Table := "0-1F 7F-9F"

/-- Invisible characters that affect layout. -/
def format : Table := "
AD 600-605 61C 6DD 70F 890-891 8E2 180E 200B-200F 202A-202E 2060-2064 2066-206F FEFF FFF9-FFFB
110BD 110CD 13430-1343F 1BCA0-1BCA3 1D173-1D17A E0001 E0020-E007F"

/-- Characters without a public meaning. -/
def privateUse : Table := "E000-F8FF F0000-FFFFD 100000-10FFFD"

end Unicode
end TextGrammar
