/-
What it takes to read the source text of a pattern.

A reader consumes characters and may refuse.  It also carries the flags that are in
force, the group names that have been used and the number of groups.  In verbose mode
blanks and comments are no part of the pattern, and most readers skip them between two
characters.  What is read is measured by how deep it is nested.
-/
import TextGrammar.Pattern.Expression
import TextGrammar.Unicode.CaseFolding

namespace TextGrammar
namespace Pattern

structure Flags where
  ignoreCase : Bool
  multiLine : Bool
  dotMatchesAll : Bool
  swapGreed : Bool
  unicode : Bool
  crlf : Bool
  verbose : Bool
deriving DecidableEq, Repr

def Flags.standard : Flags :=
  { ignoreCase := false, multiLine := false, dotMatchesAll := false, swapGreed := false,
    unicode := true, crlf := false, verbose := false }

namespace Flags

def wording (f : Flags) : Wording := if f.unicode then .unicode else .ascii

/-- The closure of a set under a change of case, where case is to be ignored. -/
def fold (f : Flags) (s : CharSet) : CharSet :=
  if f.ignoreCase then (if f.unicode then s.fold else s.asciiFold) else s

end Flags

/-- What has been read, with the number of constructs that lie in one another there. -/
structure Nested (α : Type) where
  content : α
  depth : Nat
deriving DecidableEq, Repr

namespace Nested

/-- Nothing is nested in it. -/
def flat {α : Type} (a : α) : Nested α := ⟨a, 0⟩

/-- The depth of items side by side.  They are a construct if there are two or more. -/
def depthOfAll : List Nat → Nat
  | [] => 0
  | [d] => d
  | l => l.foldl max 0 + 1

end Nested

/-- How many constructs may lie in one another. -/
def nestLimit : Nat := 250

structure Reading where
  rest : Text
  flags : Flags
  names : List Text
  /-- The number of groups that have been opened and can be told from others. -/
  groups : Nat

abbrev Reader := StateT Reading Option

namespace Reader

def refuse {α : Type} : Reader α := fun _ => none

def rest : Reader Text := fun r => some (r.rest, r)

def setRest (t : Text) : Reader Unit := fun r => some ((), { r with rest := t })

def flags : Reader Flags := fun r => some (r.flags, r)

def setFlags (f : Flags) : Reader Unit := fun r => some ((), { r with flags := f })

def newGroup : Reader Nat := fun r => some (r.groups, { r with groups := r.groups + 1 })

def peek? : Reader (Option Char) := fun r => some (r.rest.head?, r)

/-- The next character, which is not consumed; refused at the end. -/
def peek : Reader Char := fun r => r.rest.head?.map (·, r)

def drop (n : Nat) : Reader Unit := fun r => some ((), { r with rest := r.rest.drop n })

/-- Go on if the condition holds. -/
def require (b : Bool) : Reader Unit := if b then pure () else refuse

/-- A construct with content `b` around `n`, refused if it is nested too deep. -/
def around {α β : Type} (b : β) (n : Nested α) : Reader (Nested β) := do
  require (n.depth < nestLimit)
  return ⟨b, n.depth + 1⟩

/-- Remove leading blanks and comments, which run from a number sign to a line
feed. -/
def withoutBlanks (inComment : Bool) : Text → Text
  | [] => []
  | c :: t =>
    if inComment then withoutBlanks (c != '\n') t
    else if Unicode.isBlank c then withoutBlanks false t
    else if c = '#' then withoutBlanks true t
    else c :: t

/-- In verbose mode, skip blanks and comments. -/
def skipBlanks : Reader Unit := fun r =>
  some ((), if r.flags.verbose then { r with rest := withoutBlanks false r.rest } else r)

/-- Consume a character, and what may be skipped after it. -/
def bump : Reader Unit := do
  drop 1
  skipBlanks

/-- Consume the next character if it is `c`. -/
def takeChar (c : Char) : Reader Bool := do
  if (← peek?) = some c then
    drop 1
    return true
  else return false

/-- Consume `t` if the rest begins with it. -/
def takeText (t : String) : Reader Bool := do
  if t.toList.isPrefixOf (← rest) then
    drop t.length
    return true
  else return false

/-- The longest run of characters that pass, with what may be skipped after each.
The first argument bounds the number of steps; the length of the rest is enough. -/
def takeAtMost (pass : Char → Bool) : Nat → Reader Text
  | 0 => return []
  | n + 1 => do
    match ← peek? with
    | some c =>
      if pass c then
        bump
        return c :: (← takeAtMost pass n)
      else return []
    | none => return []

def takeRun (pass : Char → Bool) : Reader Text := do
  if (← peek?).any pass then takeAtMost pass (← rest).length else return []

end Reader
end Pattern
end TextGrammar
