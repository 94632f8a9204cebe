/-
The classes of characters that have leaves of their own.

The digits, letters and low line in them are those of ASCII, and white space is that of Unicode.
-/
import TextGrammar.Pattern.Reader

namespace TextGrammar
namespace Pattern

/-! ## Repeated sets -/

/-- One character of the set or more. -/
def run (s : CharSet) : Expression := .atLeast 1 true (.set s)

/-- Any number of characters of the set. -/
def anyRun (s : CharSet) : Expression := .atLeast 0 true (.set s)

def digitSet : CharSet := .ofRanges [(0x30, 0x39)]

def letterSet : CharSet := .ofRanges [(0x41, 0x5A), (0x61, 0x7A)]

def alphanumericSet : CharSet := .ofRanges [(0x30, 0x39), (0x41, 0x5A), (0x61, 0x7A)]

/-- The set of letters and the low line, which begin an identifier. -/
def initialSet : CharSet := .ofRanges [(0x41, 0x5A), (0x5F, 0x5F), (0x61, 0x7A)]

/-! ## Their characters -/

theorem isDigit_iff_toNat {c : Char} : c.isDigit = true ↔ 48 ≤ c.toNat ∧ c.toNat ≤ 57 :=
  Char.isDigit_iff_toNat

theorem isAlpha_iff_toNat {c : Char} :
    c.isAlpha = true ↔ 65 ≤ c.toNat ∧ c.toNat ≤ 90 ∨ 97 ≤ c.toNat ∧ c.toNat ≤ 122 := by
  show (decide ('A'.val ≤ c.val ∧ c.val ≤ 'Z'.val) ||
    (decide ('a'.val ≤ c.val) && decide (c.val ≤ 'z'.val))) = true ↔ _
  simp only [Bool.or_eq_true, Bool.and_eq_true, decide_eq_true_eq, UInt32.le_iff_toNat_le]
  rfl

theorem eq_lowLine_iff_toNat {c : Char} : (c == '_') = true ↔ c.toNat = 95 := by
  rw [beq_iff_eq, ← Char.toNat_inj]
  rfl

/-- The digits and letters are those of the ASCII range. -/
theorem contains_digitSet (c : Char) : digitSet.contains c = c.isDigit := by
  rw [digitSet, CharSet.contains_ofRanges (by decide), Bool.eq_iff_iff, isDigit_iff_toNat]
  simp only [List.any_cons, List.any_nil, Bool.or_false, decide_eq_true_eq]

theorem contains_letterSet (c : Char) : letterSet.contains c = c.isAlpha := by
  rw [letterSet, CharSet.contains_ofRanges (by decide), Bool.eq_iff_iff, isAlpha_iff_toNat]
  simp only [List.any_cons, List.any_nil, Bool.or_false, Bool.or_eq_true, decide_eq_true_eq]

theorem contains_alphanumericSet (c : Char) : alphanumericSet.contains c = c.isAlphanum := by
  rw [alphanumericSet, CharSet.contains_ofRanges (by decide), Char.isAlphanum, Bool.eq_iff_iff,
    Bool.or_eq_true, isAlpha_iff_toNat, isDigit_iff_toNat]
  simp only [List.any_cons, List.any_nil, Bool.or_false, Bool.or_eq_true, decide_eq_true_eq]
  exact Or.comm

theorem contains_alphanumericSet_iff {c : Char} : alphanumericSet.contains c = true ↔
    letterSet.contains c = true ∨ digitSet.contains c = true := by
  rw [contains_alphanumericSet, contains_letterSet, contains_digitSet, Char.isAlphanum,
    Bool.or_eq_true]

theorem contains_initialSet (c : Char) : initialSet.contains c = (c.isAlpha || c == '_') := by
  rw [initialSet, CharSet.contains_ofRanges (by decide), Bool.eq_iff_iff, Bool.or_eq_true,
    isAlpha_iff_toNat, eq_lowLine_iff_toNat]
  simp only [List.any_cons, List.any_nil, Bool.or_false, Bool.or_eq_true, decide_eq_true_eq]
  omega

theorem contains_asciiWord (c : Char) :
    CharSet.asciiWord.contains c = (c.isAlphanum || c == '_') := by
  rw [CharSet.asciiWord, CharSet.contains_ofRanges (by decide), Char.isAlphanum, Bool.eq_iff_iff,
    Bool.or_eq_true, Bool.or_eq_true, isAlpha_iff_toNat, isDigit_iff_toNat, eq_lowLine_iff_toNat]
  simp only [List.any_cons, List.any_nil, Bool.or_false, Bool.or_eq_true, decide_eq_true_eq]
  omega

end Pattern

/-! ## The classes -/

inductive BuiltIn where
  | digits
  | letters
  | alphanumeric
  /-- A letter or low line, then any number of letters, digits and low lines. -/
  | identifier
  /-- White space, possibly none. -/
  | whitespace
deriving DecidableEq, Repr

namespace BuiltIn

def source : BuiltIn → String
  | digits => "[0-9]+"
  | letters => "[a-zA-Z]+"
  | alphanumeric => "[a-zA-Z0-9]+"
  | identifier => "[a-zA-Z_][a-zA-Z0-9_]*"
  | whitespace => "\\s*"

open Pattern

def expression : BuiltIn → Expression
  | digits => run digitSet
  | letters => run letterSet
  | alphanumeric => run alphanumericSet
  | identifier => .seq (.set initialSet) (anyRun .asciiWord)
  | whitespace => anyRun .blank

/-- The expressions are what the source texts are read as. -/
theorem ofSource?_source (l : BuiltIn) :
    Expression.ofSource? l.source.toList = some l.expression := by
  cases l <;> decide +kernel

end BuiltIn
end TextGrammar
