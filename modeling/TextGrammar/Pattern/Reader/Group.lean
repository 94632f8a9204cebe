/-
What follows an opening parenthesis: a group name, flags, or nothing special.
-/
import TextGrammar.Pattern.Reader.Escape
import TextGrammar.Unicode.Naming

namespace TextGrammar
namespace Pattern

/-- Turn the flag with a given letter on or off. -/
def Flags.set? (f : Flags) (letter : Char) (on : Bool) : Option Flags :=
  match letter with
  | 'i' => some { f with ignoreCase := on }
  | 'm' => some { f with multiLine := on }
  | 's' => some { f with dotMatchesAll := on }
  | 'U' => some { f with swapGreed := on }
  | 'u' => some { f with unicode := on }
  | 'R' => some { f with crlf := on }
  | 'x' => some { f with verbose := on }
  | _ => none

/-- How a parenthesis opens. -/
inductive Opening where
  /-- A group with flags of its own, and with a number if what it matches is kept. -/
  | group (number : Option Nat) (f : Flags)
  /-- Flags for the rest of the group around it. -/
  | flags (f : Flags)

namespace Reader

/-- Letters up to the colon or parenthesis that ends them.  Those behind a hyphen
turn a flag off.  Nothing may be written twice, and the hyphen not last.  The first
argument bounds the number of letters; the length of the rest is enough. -/
def flagLetters : Nat → List Char → Flags → Reader Opening
  | 0, _, _ => refuse
  | n + 1, seen, f => do
    let c ← peek
    drop 1
    if c = ':' ∨ c = ')' then
      require (seen.head? != some '-')
      if c = ':' then return .group none f
      else
        require (!seen.isEmpty)
        return .flags f
    else
      require (!seen.contains c)
      if c = '-' then flagLetters n (c :: seen) f
      else flagLetters n (c :: seen) (← orRefuse (f.set? c (!seen.contains '-')))

/-- The letters that may stand in a name. -/
def nameLetter : CharSet := .union Unicode.alphabetic.set Unicode.recentLetters.set

/-- The numbers that may stand in a name. -/
def nameNumber : CharSet :=
  .unionAll [Unicode.decimalNumber.set, Unicode.letterNumber.set, Unicode.otherNumber.set,
    Unicode.recentNumbers.set]

def beginsName (c : Char) : Bool := c == '_' || nameLetter.contains c

def continuesName (c : Char) : Bool :=
  c == '.' || c == '[' || c == ']' || beginsName c || nameNumber.contains c

/-- A group name up to the angle bracket behind it.  No name may occur twice. -/
def groupName : Reader Unit := fun r =>
  let name := r.rest.takeWhile (· ≠ '>')
  match name, r.rest.drop name.length with
  | c :: cs, _ :: after =>
    if beginsName c && cs.all continuesName && !r.names.contains name then
      some ((), { r with rest := after, names := name :: r.names })
    else none
  | _, _ => none

/-- An opening parenthesis and what belongs to it.  Conditions on the text around a
place, such as `(?=`, are refused. -/
def opening : Reader Opening := do
  drop 1
  skipBlanks
  let t ← rest
  require (!(["?=", "?!", "?<=", "?<!"].any fun p => p.toList.isPrefixOf t))
  let f ← flags
  if (← takeText "?P<") || (← takeText "?<") then
    groupName
    return .group (← newGroup) f
  else if ← takeText "?" then flagLetters ((← rest).length + 1) [] f
  else return .group (← newGroup) f

end Reader
end Pattern
end TextGrammar
