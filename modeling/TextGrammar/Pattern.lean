/-
Patterns: compiled regular expressions with their source texts.

How an expression is compiled, and how its matches are found, is left to an engine: see
`TextGrammar.Engine`.  A pattern is tried at one place only.  It sees the character in front of
that place, so conditions such as a word boundary take the whole text into account.
-/
import TextGrammar.Text

namespace TextGrammar

/-- A compiled expression.  `matched? before t` is the part of `t` that it matches from the
beginning of `t`, where `before` is the character in front of `t`. -/
structure Matcher where
  matched? : Option Char → Text → Option Text
  /-- A match is the beginning of the text. -/
  matched?_prefix {before : Option Char} {t m : Text} : matched? before t = some m → m <+: t

structure Pattern where
  source : String
  matcher : Matcher

def Pattern.matched? (p : Pattern) : Option Char → Text → Option Text := p.matcher.matched?

theorem Pattern.matched?_prefix {p : Pattern} {before : Option Char} {t m : Text}
    (h : p.matched? before t = some m) : m <+: t :=
  p.matcher.matched?_prefix h

end TextGrammar
