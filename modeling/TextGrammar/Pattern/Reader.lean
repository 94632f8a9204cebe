/-
Reading the source text of a pattern.

`Expression.ofSource?` is the expression that a text denotes, or `none` if it is no
pattern.
-/
import TextGrammar.Pattern.Reader.Bracket
import TextGrammar.Pattern.Reader.Group
import TextGrammar.Pattern.Reader.Repetition

namespace TextGrammar
namespace Pattern
namespace Reader

/-- Any character but a line end, or any at all. -/
def dot : Reader Expression := do
  let f ← flags
  require f.unicode
  return .ofSet <|
    if f.dotMatchesAll then .all
    else if f.crlf then .compl (.ofRanges [(0xA, 0xA), (0xD, 0xD)])
    else .compl (.single '\n')

/-- Without Unicode a numeral for a byte outside ASCII is no character. -/
def ofPrimitive : Primitive → Reader Expression
  | .char c asByte => do
    let f ← flags
    require (f.unicode || !asByte || c.toNat ≤ 0x7F)
    return .ofSet (f.fold (.single c))
  | .set s => return .ofSet s
  | .look l => return .look l

/-- One character, escape or condition. -/
def primitive (c : Char) : Reader Expression := do
  let f ← flags
  if c = '\\' then ofPrimitive (← escape)
  else
    drop 1
    match c with
    | '.' => dot
    | '^' =>
      return .look (if f.multiLine then (if f.crlf then .lineStartCRLF else .lineStart)
        else .textStart)
    | '$' =>
      return .look (if f.multiLine then (if f.crlf then .lineEndCRLF else .lineEnd)
        else .textEnd)
    | _ => ofPrimitive (.char c false)

/-- What cannot be repeated is `none`: flags, which match nothing. -/
abbrev Piece := Option (Nested Expression)

/-- One branch from its pieces, last first. -/
def branch (pieces : List Piece) : Nested Expression :=
  let found := pieces.reverse
  ⟨.seqAll (found.filterMap fun p => p.map (·.content)),
    Nested.depthOfAll (found.map fun p => (p.map (·.depth)).getD 0)⟩

/-- The choice between `before`, last first, and the branch of `pieces`. -/
def choose (before : List (Nested Expression)) (pieces : List Piece) : Nested Expression :=
  let found := (branch pieces :: before).reverse
  ⟨.altAll (found.map (·.content)), Nested.depthOfAll (found.map (·.depth))⟩

/-- A group around what was read in it. -/
def grouped (number : Option Nat) (e : Nested Expression) : Reader (Nested Expression) :=
  around ((number.map fun n => .group n e.content).getD e.content) e

/-- The branches up to the parenthesis that closes the group, or to the end.  Flags
hold from where they are written to the end of the group, over branches too. -/
def alternatives : Nat → List (Nested Expression) → List Piece → Reader (Nested Expression)
  | 0, _, _ => refuse
  | n + 1, before, pieces => do
    skipBlanks
    match ← peek? with
    | none | some ')' => return choose before pieces
    | some '|' =>
      drop 1
      alternatives n (branch pieces :: before) []
    | some '(' =>
      let outer ← flags
      match ← opening with
      | .flags f =>
        setFlags f
        alternatives n before (none :: pieces)
      | .group number f =>
        setFlags f
        let e ← alternatives n [] []
        require (← takeChar ')')
        setFlags outer
        alternatives n before (some (← grouped number e) :: pieces)
    | some '?' | some '*' | some '+' | some '{' =>
      match pieces with
      | some e :: earlier => alternatives n before (some (← repetition e) :: earlier)
      | _ => refuse
    | some '[' =>
      let s ← bracket
      alternatives n before (some ⟨.ofSet s.content, s.depth⟩ :: pieces)
    | some c => alternatives n before (some (.flat (← primitive c)) :: pieces)

end Reader
end Pattern

/-- The expression that a text denotes. -/
def Expression.ofSource? (source : Text) : Option Expression :=
  match Pattern.Reader.alternatives (source.length + 1) [] []
    { rest := source, flags := Pattern.Flags.standard, names := [], groups := 0 } with
  | some (e, r) => if r.rest.isEmpty && e.depth ≤ Pattern.nestLimit then some e.content else none
  | none => none

end TextGrammar
