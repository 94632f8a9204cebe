/-
Operators behind an expression that repeat it.
-/
import TextGrammar.Pattern.Reader.Basic

namespace TextGrammar
namespace Pattern
namespace Reader

/-- A decimal numeral below two to the thirty-second, with blanks around it. -/
def decimal : Reader Nat := do
  setRest ((← rest).dropWhile Unicode.isBlank)
  let digits ← takeRun Char.isDigit
  discard (takeRun Unicode.isBlank)
  let n := digits.foldl (fun n d => 10 * n + (d.toNat - '0'.toNat)) 0
  require (!digits.isEmpty && n < UInt32.size)
  return n

/-- The least and the greatest number of rounds, in braces. -/
def counts : Reader (Nat × Option Nat) := do
  bump
  let lo ← decimal
  let found ←
    if (← peek) = ',' then do
      bump
      if (← peek) = '}' then pure (lo, none)
      else pure (lo, some (← decimal))
    else pure (lo, some lo)
  require ((← peek) == '}' && found.2.all (lo ≤ ·))
  bump
  return found

/-- The operator that the reader stands on, applied to `e`.  A question mark behind it
makes it prefer fewer rounds, or more where the flags swap the two. -/
def repetition (e : Nested Expression) : Reader (Nested Expression) := do
  let (lo, hi) ←
    match ← peek with
    | '?' => do drop 1; pure (0, some 1)
    | '*' => do drop 1; pure (0, none)
    | '+' => do drop 1; pure (1, none)
    | _ => counts
  let fewer ← takeChar '?'
  let greedy := fewer == (← flags).swapGreed
  around (.rounds lo hi greedy e.content) e

end Reader
end Pattern
end TextGrammar
