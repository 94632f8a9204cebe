/-
A language of nested arrays.

Values are `null`, truth values, integers, quoted texts without escapes, and arrays of values
in brackets.  White space may stand around every value, bracket and comma.
-/
import TextGrammar.Blueprint.Value
import TextGrammar.Parser

namespace TextGrammar
namespace Arrays

inductive Datum where
  | null
  | bool (b : Bool)
  | number (n : Int)
  | text (t : Text)
  | array (items : List Datum)
deriving Repr

/-- The only rule stands for a value. -/
abbrev signature (E : Engine) : Signature := ⟨E, Unit, fun _ => Datum⟩

/-- The integer with these digits.  One that is beyond 64 bits is the greatest there is. -/
def Datum.ofDigits (negative : Bool) (digits : Text) : Datum :=
  let n := (Value.integer? digits).getD Value.greatest
  number (if negative then -n else n)

def Datum.ofWord (word : Text) : Datum :=
  if word = "true".toList then bool true
  else if word = "false".toList then bool false
  else null

/-- The expression of the words of the language. -/
def anyWord : Expression :=
  .alt (.literal "true".toList) (.alt (.literal "false".toList) (.literal "null".toList))

theorem ofSource?_anyWord :
    Expression.ofSource? "true|false|null".toList = some anyWord := by decide +kernel

variable {E : Engine}

def number : Parser (signature E) Datum :=
  .chain (.optional (.literal ['-'])) fun sign =>
    .map Parser.digits (Datum.ofDigits sign.isSome)

def string : Parser (signature E) Datum :=
  .map (.between (.literal ['"']) (.literal ['"']) (.takeUntil (.literal ['"']))) Datum.text

/-- A word, by the pattern that the source text of words compiles to. -/
def keyword (word : Pattern) : Parser (signature E) Datum := .map (.pattern word) Datum.ofWord

def array : Parser (signature E) Datum :=
  .map (.between (.trim (.literal ['['])) (.label (.trim (.literal [']'])) "expected ',' or ']'")
    (.sepBy (.rule ()) (.trim (.literal [','])))) Datum.array

def value (word : Pattern) : Parser (signature E) Datum :=
  .trim (.choose [number, string, keyword word, array])

def grammar (word : Pattern) : Grammar (signature E) := fun _ => value word

/-- A value and nothing else. -/
def document (word : Pattern) : Parser (signature E) Datum := .keepLeft (value word) .endOfInput

end Arrays
end TextGrammar
