/-
Regular expressions.

An expression says which texts match and which match is preferred: the left side
of an alternative before the right one, and one more round of a greedy repetition
before none.
-/
import TextGrammar.Pattern.Shorthand

namespace TextGrammar

/-- The characters on the two sides of a place, none at the ends of the text. -/
structure Sight where
  before : Option Char
  after : Option Char
deriving DecidableEq, Repr

/-- Which characters count as parts of words. -/
inductive Wording where
  | unicode
  | ascii
deriving DecidableEq, Repr

def Wording.isWord : Wording → Char → Bool
  | .unicode, c => CharSet.word.contains c
  | .ascii, c => CharSet.asciiWord.contains c

/-- Conditions on a place that consume nothing. -/
inductive Look where
  | textStart
  | textEnd
  /-- After a line feed or at the start of the text. -/
  | lineStart
  | lineEnd
  /-- As `lineStart`, where a carriage return, a line feed, or the two together end
  a line. -/
  | lineStartCRLF
  | lineEndCRLF
  | wordBoundary (w : Wording)
  | notWordBoundary (w : Wording)
  | wordStart (w : Wording)
  | wordEnd (w : Wording)
  /-- No part of a word on the left. -/
  | wordStartHalf (w : Wording)
  /-- No part of a word on the right. -/
  | wordEndHalf (w : Wording)
deriving DecidableEq, Repr

namespace Look

def holds (l : Look) (s : Sight) : Bool :=
  let left (w : Wording) : Bool := s.before.any w.isWord
  let right (w : Wording) : Bool := s.after.any w.isWord
  match l with
  | textStart => s.before.isNone
  | textEnd => s.after.isNone
  | lineStart => s.before.all (· == '\n')
  | lineEnd => s.after.all (· == '\n')
  | lineStartCRLF => s.before.all (· == '\n') || (s.before == some '\r' && s.after != some '\n')
  | lineEndCRLF => s.after.all (· == '\r') || (s.after == some '\n' && s.before != some '\r')
  | wordBoundary w => left w != right w
  | notWordBoundary w => left w == right w
  | wordStart w => !left w && right w
  | wordEnd w => left w && !right w
  | wordStartHalf w => !left w
  | wordEndHalf w => !right w

end Look

inductive Expression where
  | empty
  /-- The characters of a text, one after the other. -/
  | literal (t : Text)
  | set (s : CharSet)
  | look (l : Look)
  /-- A group that can be told from all others by its number. -/
  | group (number : Nat) (e : Expression)
  | seq (a b : Expression)
  /-- Either side, preferably the left one. -/
  | alt (a b : Expression)
  | atLeast (n : Nat) (greedy : Bool) (e : Expression)
  | between (lo hi : Nat) (greedy : Bool) (e : Expression)
deriving DecidableEq, Repr

namespace Expression

/-! ## What every match and what some match holds -/

/-- Whether every match of the expression holds a character. -/
def mustConsume : Expression → Bool
  | empty | look _ => false
  | literal t => !t.isEmpty
  | set _ => true
  | group _ e => mustConsume e
  | seq a b => mustConsume a || mustConsume b
  | alt a b => mustConsume a && mustConsume b
  | atLeast n _ e | between n _ _ e => n != 0 && mustConsume e

/-- Whether some match of the expression may hold a character. -/
def mayConsume : Expression → Bool
  | empty | look _ => false
  | literal t => !t.isEmpty
  | set _ => true
  | group _ e => mayConsume e
  | seq a b | alt a b => mayConsume a || mayConsume b
  | atLeast _ _ e => mayConsume e
  | between _ hi _ e => hi != 0 && mayConsume e

/-! ## Building in simplest form

Sequences and alternatives nest to the right, with no sequence on the left of a
sequence and no alternative on the left of an alternative.  Literals that follow one
another are one literal, and what matches one character of several is one set.  The
simplest form settles the order of preference where a repetition may match nothing,
so it is part of what an expression means. -/

def ofChar (c : Char) : Expression := literal [c]

/-- A set, which is a literal if it has one character only. -/
def ofSet (s : CharSet) : Expression := (s.single?.map ofChar).getD (set s)

/-- The parts of a sequence. -/
def parts : Expression → List Expression
  | empty => []
  | seq a b => a :: parts b
  | e => [e]

def seqOfParts : List Expression → Expression
  | [] => empty
  | [e] => e
  | e :: l => seq e (seqOfParts l)

def joinLiterals : List Expression → List Expression
  | [] => []
  | e :: l =>
    match e, joinLiterals l with
    | literal t, literal u :: l => literal (t ++ u) :: l
    | e, l => e :: l

/-- One expression after the other. -/
def seqAll (l : List Expression) : Expression := seqOfParts (joinLiterals (l.flatMap parts))

/-- The branches of an alternative. -/
def branches : Expression → List Expression
  | alt a b => a :: branches b
  | e => [e]

def altOfBranches : List Expression → Expression
  | [] => set .empty
  | [e] => e
  | e :: l => alt e (altOfBranches l)

/-- The characters that an expression matches, if it matches single characters only. -/
def chars? : Expression → Option CharSet
  | set s => some s
  | literal [c] => some (.single c)
  | _ => none

/-- Alternatives in order of preference, where none is an alternative itself. -/
def altFlat (l : List Expression) : Expression :=
  match l, l.mapM chars? with
  | _ :: _ :: _, some sets => ofSet (.unionAll sets)
  | l, _ => altOfBranches l

/-- The longest common beginning of lists. -/
def commonStart {α : Type} [DecidableEq α] : List α → List α → List α
  | a :: l, b :: m => if a = b then a :: commonStart l m else []
  | _, _ => []

/-- The parts with which all sequences in a list begin, none if there is another
expression in the list. -/
def sharedParts : List Expression → List Expression
  | [] => []
  | [e] => if e.parts.length < 2 then [] else e.parts
  | e :: l => if e.parts.length < 2 then [] else commonStart e.parts (sharedParts l)

/-- Alternatives in order of preference.  What all of them begin with is put in front of
the choice between them. -/
def altAll (l : List Expression) : Expression :=
  let flat := l.flatMap branches
  let shared := sharedParts flat
  if flat.length < 2 ∨ shared = [] then altFlat flat
  else
    let rests := flat.map fun e => seqAll (e.parts.drop shared.length)
    seqAll (shared ++ [altFlat (rests.flatMap branches)])

/-- From `lo` rounds of an expression up to `hi`, or any number of them.  More rounds
of nothing match what one matches, so there is at most one. -/
def rounds (lo : Nat) (hi : Option Nat) (greedy : Bool) (e : Expression) : Expression :=
  let (lo, hi) := if mayConsume e then (lo, hi) else (min lo 1, some (min (hi.getD 1) 1))
  match lo, hi with
  | 0, some 0 => empty
  | 1, some 1 => e
  | lo, some hi => between lo hi greedy e
  | lo, none => atLeast lo greedy e

end Expression
end TextGrammar
