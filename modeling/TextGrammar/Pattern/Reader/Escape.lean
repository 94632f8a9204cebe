/-
Escapes: what begins with a backslash.
-/
import TextGrammar.Pattern.Property
import TextGrammar.Pattern.Reader.Basic

namespace TextGrammar
namespace Pattern

/-- What an escape or a plain character stands for. -/
inductive Primitive where
  /-- A character.  `asByte` tells that it was written as a numeral of two digits,
  which without Unicode means a byte. -/
  | char (c : Char) (asByte : Bool)
  | set (s : CharSet)
  | look (l : Look)
deriving DecidableEq, Repr

namespace Reader

/-- The character with a given number; surrogates and numbers that are too large
have none. -/
def charOfNumber? (n : Nat) : Option Char :=
  if h : n.isValidChar then some (Char.ofNatAux n h) else none

def orRefuse {α : Type} (o : Option α) : Reader α := fun r => o.map (·, r)

/-- Hexadecimal digits, `n` of them, with what may be skipped between two of them. -/
def hexDigits : Nat → Reader Text
  | 0 => return []
  | n + 1 => do
    let c ← peek
    require (Text.hexDigit? c).isSome
    bump
    return c :: (← hexDigits n)

/-- A numeral after `\x`, `\u` or `\U`: two, four or eight digits, or any positive
number of them in braces.  Two digits without braces are the number of a byte. -/
def numeral (digits : Nat) : Reader Primitive := do
  bump
  if (← peek) = '{' then
    bump
    let ds ← takeRun fun c => (Text.hexDigit? c).isSome
    require ((← peek) == '}' && !ds.isEmpty)
    bump
    return .char (← orRefuse ((Text.hexValue? ds).bind charOfNumber?)) false
  else
    let ds ← hexDigits digits
    return .char (← orRefuse ((Text.hexValue? ds).bind charOfNumber?)) (digits == 2)

/-- The parts in front of and behind the first occurrence of `op`. -/
def splitAtText (op : Text) : Text → Option (Text × Text)
  | [] => none
  | c :: t =>
    if op.isPrefixOf (c :: t) then some ([], (c :: t).drop op.length)
    else (splitAtText op t).map fun (before, after) => (c :: before, after)

/-- The set that is named in braces: a name, or a property and its value with `!=`, `:`
or `=` between them.  The three signs mean the same; only the letter in front of the
braces asks for a complement. -/
def propertyNamed? (name : Text) : Option CharSet :=
  match ((splitAtText ['!', '='] name).or (splitAtText [':'] name)).or
    (splitAtText ['='] name) with
  | some (property, value) => CharSet.propertyValue? property value
  | none => CharSet.property? name

/-- A set by property.  The reader stands on the `p` or `P` of the escape. -/
def property : Reader CharSet := do
  let negated := (← peek) == 'P'
  bump
  let c ← peek
  let f ← flags
  let found ←
    if c = '{' then do
      bump
      let name ← takeRun (· ≠ '}')
      require ((← peek?) == some '}')
      drop 1
      orRefuse (propertyNamed? name)
    else do
      drop 1
      orRefuse (CharSet.property? [c])
  require f.unicode
  return (f.fold found).complIf negated

/-- The sets `\d`, `\s`, `\w` and their complements.  Without Unicode a complement
would hold bytes that are no text, and is refused. -/
def shorthand (c : Char) : Reader CharSet := do
  let f ← flags
  let negated := c.isUpper
  let s := match c.toLower with
    | 'd' => if f.unicode then CharSet.decimal else CharSet.asciiDecimal
    | 's' => if f.unicode then CharSet.blank else CharSet.asciiBlank
    | _ => if f.unicode then CharSet.word else CharSet.asciiWord
  require (f.unicode || !negated)
  return s.complIf negated

/-- The word boundaries that are written in braces after `\b`. -/
def namedBoundary? (w : Wording) : String → Option Look
  | "start" => some (.wordStart w)
  | "end" => some (.wordEnd w)
  | "start-half" => some (.wordStartHalf w)
  | "end-half" => some (.wordEndHalf w)
  | _ => none

/-- What follows `\b`.  A brace with a letter or a hyphen behind it begins the name of
a boundary, any other brace a repetition. -/
def boundary (w : Wording) : Reader Look := do
  let before ← rest
  if (← peek?) ≠ some '{' then return .wordBoundary w
  bump
  let ofName (c : Char) : Bool := c.isAlpha || c == '-'
  if !ofName (← peek) then
    setRest before
    return .wordBoundary w
  let name ← takeRun ofName
  require ((← peek?) == some '}')
  drop 1
  orRefuse (namedBoundary? w (String.ofList name))

/-- Characters of ASCII that stand for themselves behind a backslash. -/
def isEscapable (c : Char) : Bool :=
  c.toNat ≤ 0x7F && !c.isAlphanum && c != '<' && c != '>'

/-- An escape.  The reader stands on the backslash. -/
def escape : Reader Primitive := do
  drop 1
  let c ← peek
  let w := (← flags).wording
  match c with
  | 'x' => numeral 2
  | 'u' => numeral 4
  | 'U' => numeral 8
  | 'p' | 'P' => return .set (← property)
  | 'd' | 'D' | 's' | 'S' | 'w' | 'W' =>
    drop 1
    return .set (← shorthand c)
  | _ =>
    drop 1
    if isEscapable c then return .char c false
    match c with
    | 'a' => return .char '\x07' false
    | 'f' => return .char '\x0C' false
    | 't' => return .char '\t' false
    | 'n' => return .char '\n' false
    | 'r' => return .char '\r' false
    | 'v' => return .char '\x0B' false
    | 'A' => return .look .textStart
    | 'z' => return .look .textEnd
    | 'b' => return .look (← boundary w)
    | 'B' => return .look (.notWordBoundary w)
    | '<' => return .look (.wordStart w)
    | '>' => return .look (.wordEnd w)
    | _ => refuse

end Reader
end Pattern
end TextGrammar
