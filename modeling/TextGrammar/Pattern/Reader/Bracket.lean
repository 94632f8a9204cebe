/-
Sets in brackets.

A bracketed set holds characters, ranges, escapes, named sets and further bracketed
sets.  The operators `&&`, `--` and `~~` have one precedence and group to the left;
each joins everything in front of it with what follows up to the next operator.
Case is ignored before a set is complemented or joined with another.
-/
import TextGrammar.Pattern.Reader.Escape

namespace TextGrammar
namespace Pattern
namespace Reader

/-- A set that is complete up to its complement.  Without Unicode a complement would
hold bytes that are no text, and is refused. -/
def closed (negated : Bool) (s : CharSet) : Reader CharSet := do
  let f ← flags
  require (f.unicode || !negated)
  return (f.fold s).complIf negated

/-- An item of a set by itself.  A condition on a place is none. -/
def asChar : Primitive → Reader Char
  | .char c _ => do
    require ((← flags).unicode || c.toNat ≤ 0x7F)
    return c
  | _ => refuse

def asSet : Primitive → Reader CharSet
  | .set s => return s
  | p => return .single (← asChar p)

def bracketItem : Reader Primitive := do
  let c ← peek
  if c = '\\' then escape
  else
    drop 1
    return .char c false

/-- The text behind blanks and at most one number sign. -/
def withoutSign (seen : Bool) : Text → Text
  | [] => []
  | c :: t =>
    if Unicode.isBlank c then withoutSign seen t
    else if !seen && c == '#' then withoutSign true t
    else c :: t

/-- The character that decides whether a hyphen makes a range. -/
def afterHyphen? : Reader (Option Char) := do
  let t := (← rest).drop 1
  return if (← flags).verbose then (withoutSign false t).head? else t.head?

/-- An item, or a range if a hyphen follows it that is neither last in the set nor
one of two. -/
def bracketRange : Reader CharSet := do
  let first ← bracketItem
  skipBlanks
  let c ← peek
  let next ← afterHyphen?
  if c ≠ '-' ∨ next = some ']' ∨ next = some '-' then asSet first
  else
    bump
    let second ← bracketItem
    let lo ← asChar first
    let hi ← asChar second
    require (lo ≤ hi)
    return .between lo hi

/-- A set such as `[:alpha:]` or `[:^alpha:]`.  If the rest does not begin with one,
nothing is consumed. -/
def posixSet? : Reader (Option CharSet) := do
  match ← rest with
  | '[' :: ':' :: t =>
    let negated := t.head? == some '^'
    let t := if negated then t.drop 1 else t
    let name := t.takeWhile (· ≠ ':')
    match t.drop name.length, CharSet.posix? (String.ofList name) with
    | ':' :: ']' :: after, some s =>
      setRest after
      return some (← closed negated s)
    | _, _ => return none
  | _ => return none

/-- The set of items side by side. -/
def together (items : List (Nested CharSet)) : Nested CharSet :=
  ⟨.unionAll (items.map (·.content)), Nested.depthOfAll (items.map (·.depth))⟩

/-- The opening bracket, a caret if the set is to be complemented, and the leading
hyphens or the leading bracket, which stand for themselves. -/
def bracketOpen : Reader (Bool × List (Nested CharSet)) := do
  bump
  let negated := (← peek) == '^'
  if negated then bump
  let hyphens ← takeRun (· == '-')
  let c ← peek
  if hyphens = [] ∧ c = ']' then
    bump
    discard peek
    return (negated, [.flat (.single ']')])
  else return (negated, hyphens.map fun h => .flat (.single h))

/-- The two sides of an operator on sets. -/
def operate (f : Flags) (op : CharSet → CharSet → CharSet) (left right : Nested CharSet) :
    Nested CharSet :=
  ⟨op (f.fold left.content) (f.fold right.content), max left.depth right.depth + 1⟩

/-- The items up to the closing bracket.  `join` takes them as the right side of the
operator in front of them. -/
def bracketBody : Nat → (Nested CharSet → Nested CharSet) → List (Nested CharSet) →
    Reader (Nested CharSet)
  | 0, _, _ => refuse
  | n + 1, join, items => do
    skipBlanks
    let f ← flags
    match ← rest with
    | [] => refuse
    | ']' :: _ =>
      drop 1
      return join (together items)
    | '[' :: _ =>
      match ← posixSet? with
      | some s => bracketBody n join (.flat s :: items)
      | none =>
        let (negated, first) ← bracketOpen
        let inner ← bracketBody n id first
        bracketBody n join ((← around (← closed negated inner.content) inner) :: items)
    | '&' :: '&' :: _ =>
      drop 2
      bracketBody n (operate f .inter (join (together items))) []
    | '-' :: '-' :: _ =>
      drop 2
      bracketBody n (operate f .diff (join (together items))) []
    | '~' :: '~' :: _ =>
      drop 2
      bracketBody n (operate f .symmDiff (join (together items))) []
    | _ => bracketBody n join (.flat (← bracketRange) :: items)

/-- A bracketed set.  The reader stands on the opening bracket. -/
def bracket : Reader (Nested CharSet) := do
  let (negated, first) ← bracketOpen
  let inner ← bracketBody ((← rest).length + 1) id first
  around (← closed negated inner.content) inner

end Reader
end Pattern
end TextGrammar
