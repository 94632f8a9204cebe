/-
Which match of an expression is preferred.

An expression matches in several ways, and they are ordered: the ways of the left side of an
alternative come before those of the right one, and another round of a greedy repetition comes
before none.  `ends` lists the places where a match may end, those of preferred ways first, and the
preferred match is the one that ends at the first of them.  Nothing is said here of how it is
found.
-/
import TextGrammar.Pattern.Expression

namespace TextGrammar

/-- A place in a text: the character in front of it and what stands behind it. -/
structure Place where
  before : Option Char
  rest : Text

namespace Place

def sight (p : Place) : Sight := ⟨p.before, p.rest.head?⟩

/-- The place behind a character for which `f` holds, if one stands here. -/
def passChar (f : Char → Bool) : Place → List Place
  | ⟨_, c :: t⟩ => if f c then [⟨some c, t⟩] else []
  | ⟨_, []⟩ => []

/-- The place behind a text, if it stands here. -/
def passText : Text → Place → List Place
  | [], p => [p]
  | c :: t, p => (p.passChar (c == ·)).flatMap (passText t)

/-- Another round or the way out, the preferred one first. -/
def prefer (greedy : Bool) (round out : List Place) : List Place :=
  if greedy then round ++ out else out ++ round

/-- One round or more, at most the given number of them.  A round that consumes nothing is the
last. -/
def rounds (f : Place → List Place) (greedy : Bool) : Nat → Place → List Place
  | 0, _ => []
  | n + 1, p => (f p).flatMap fun q =>
    if q.rest.length < p.rest.length then prefer greedy (rounds f greedy n q) [q] else [q]

/-- Just `n` rounds. -/
def exactly (f : Place → List Place) : Nat → Place → List Place
  | 0, p => [p]
  | n + 1, p => (f p).flatMap (exactly f n)

/-- At most `n` rounds. -/
def upTo (f : Place → List Place) (greedy : Bool) : Nat → Place → List Place
  | 0, p => [p]
  | n + 1, p => prefer greedy ((f p).flatMap (upTo f greedy n)) [p]

end Place

namespace Expression

open Place (prefer exactly upTo)

/-- The places where a match that begins at `p` may end, those of preferred ways first. -/
def ends : Expression → Place → List Place
  | empty, p => [p]
  | literal t, p => p.passText t
  | set s, p => p.passChar s.contains
  | look l, p => if l.holds p.sight then [p] else []
  | group _ e, p => ends e p
  | seq a b, p => (ends a p).flatMap (ends b)
  | alt a b, p => ends a p ++ ends b p
  | atLeast 0 greedy e, p =>
    prefer greedy (Place.rounds (ends e) greedy (p.rest.length + 1) p) [p]
  | atLeast (n + 1) greedy e, p =>
    (exactly (ends e) n p).flatMap fun q =>
      Place.rounds (ends e) greedy (q.rest.length + 1) q
  | between lo hi greedy e, p => (exactly (ends e) lo p).flatMap (upTo (ends e) greedy (hi - lo))

/-- The match that is preferred among all that begin where `t` does, behind `before`. -/
def preferred? (e : Expression) (before : Option Char) (t : Text) : Option Text :=
  ((e.ends ⟨before, t⟩).head?).map fun q => t.take (t.length - q.rest.length)

end Expression
end TextGrammar
