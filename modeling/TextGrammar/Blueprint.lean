/-
Blueprints: parsers described by data.

A blueprint names combinators, functions and conditions instead of holding them, and
patterns by their source text.  `build` makes a parser of it, or reports the first
pattern that is none.
-/
import TextGrammar.Blueprint.Condition
import TextGrammar.Blueprint.Transform
import TextGrammar.Engine.Threads
import TextGrammar.Parser.Meaning

namespace TextGrammar

/-- The leaves that need no argument. -/
inductive Leaf where
  | endOfInput
  | whitespace
  | digits
  | letters
  | alphanumeric
  | identifier
deriving DecidableEq, Repr

/-- How a source text has been turned into an expression: as part of the pattern, or
in advance. -/
inductive Origin where
  | inline
  | prepared
deriving DecidableEq, Repr

/-- How a value selects the parser that goes on, with the help of one more parser `q`
and of branches. -/
inductive Continuation where
  /-- The text of the value. -/
  | literal
  /-- Failure with the text of the value as its message. -/
  | fail
  | succeed
  /-- `q`, whatever the value is. -/
  | const
  /-- A pattern, with the text of the value in place of each pair of braces. -/
  | pattern (template : Text)
  /-- As often `q` as the value says. -/
  | count
  /-- Then `q`, with its value paired with this one. -/
  | pair
  /-- The branch whose label is the text of the value, or else `q`. -/
  | select (labels : List Text)
deriving DecidableEq, Repr

inductive Blueprint where
  | leaf (l : Leaf)
  | literal (text : Text)
  | pattern (source : String) (origin : Origin)
  | succeed (v : Value)
  | fail (message : String)
  | map (p : Blueprint) (f : Transform)
  /-- First `p`, then what its value selects.  All parts are built, also those that the
  continuation has no use for. -/
  | chain (p : Blueprint) (next : Continuation) (q : Blueprint) (branches : List Blueprint)
  | filter (p : Blueprint) (keep : Condition) (message : String)
  | orElse (p q : Blueprint)
  | keepRight (p q : Blueprint)
  | keepLeft (p q : Blueprint)
  | many (p : Blueprint)
  | many1 (p : Blueprint)
  | optional (p : Blueprint)
  | trim (p : Blueprint)
  | sepBy (p sep : Blueprint)
  | between (opening closing p : Blueprint)
  | choice (ps : List Blueprint)
  | sequence (ps : List Blueprint)
  | notAhead (p : Blueprint)
  | lookAhead (p : Blueprint)
  | takeUntil (p : Blueprint)
  | label (p : Blueprint) (message : String)
  | withSpan (p : Blueprint)
  /-- A rule by name.  An announced one is recorded each time it is called. -/
  | rule (name : String) (announced : Bool)
  | tap (name : String) (p : Blueprint)
  /-- As `p`, with a record of each value under a tag. -/
  | note (tag : String) (p : Blueprint)

namespace Blueprint

/-- Rules have names, and everything yields a value. -/
def signature : Signature := ⟨.threads, String, fun _ => Value⟩

abbrev Built := Parser signature Value

def ofLeaf : Leaf → Built
  | .endOfInput => .map .endOfInput fun _ => .unit
  | .whitespace => .map .whitespace .text
  | .digits => .map .digits .text
  | .letters => .map .letters .text
  | .alphanumeric => .map .alphanumeric .text
  | .identifier => .map .identifier .text

/-- Put `value` in place of each pair of braces. -/
def fill (value : Text) : Text → Text
  | '\x7b' :: '\x7d' :: t => value ++ fill value t
  | c :: t => c :: fill value t
  | [] => []

/-- An unsigned decimal numeral, possibly with a plus sign, of at most a thousand. -/
def repetitions? (t : Text) : Option Nat :=
  (Value.natural? (if t.head? = some '+' then t.drop 1 else t)).filter (· ≤ 1000)

/-- The parser with a pattern that was put together from a value. -/
def ofTemplate (template : Text) (value : Text) : Built :=
  match Pattern.compile? (String.ofList (fill value template)) with
  | some p => .map (.pattern p) .text
  | none => .fail "invalid pattern"

def times (q : Built) (value : Text) : Built :=
  match repetitions? value with
  | some n => .map (.sequence fun _ : Fin n => q) .list
  | none => .fail "bad count"

/-- The branch with a given label. -/
def branch (labels : List Text) (branches : List Built) (q : Built) (value : Text) : Built :=
  match labels, branches with
  | l :: ls, b :: bs => if l = value then b else branch ls bs q value
  | _, _ => q

/-- The parser that a continuation selects. -/
def follow (next : Continuation) (q : Built) (branches : List Built) (v : Value) : Built :=
  match next with
  | .literal => .map (.literal v.toText) .text
  | .fail => .fail (String.ofList v.toText)
  | .succeed => .succeed v
  | .const => q
  | .pattern template => ofTemplate template v.toText
  | .count => times q v.toText
  | .pair => .map q fun w => .list [v, w]
  | .select labels => branch labels branches q v.toText

def call (name : String) (announced : Bool) : Built :=
  let body : Built := .rule (S := signature) name
  if announced then .keepRight (.note (.succeed ()) fun _ => "lazy " ++ name) body else body

mutual
/-- The parser that a blueprint describes. -/
def build : Blueprint → Except Origin Built
  | leaf l => .ok (ofLeaf l)
  | literal t => .ok (.map (.literal t) .text)
  | pattern source origin =>
    match Pattern.compile? source with
    | some p => .ok (.map (.pattern p) .text)
    | none => .error origin
  | succeed v => .ok (.succeed v)
  | fail m => .ok (.fail m)
  | map p f => do return .map (← build p) f.apply
  | chain p next q branches => do
    return .chain (← build p) (follow next (← build q) (← buildAll branches))
  | filter p keep m => do return .filter (← build p) keep.holds m
  | orElse p q => do return .orElse (← build p) (← build q)
  | keepRight p q => do return .keepRight (← build p) (← build q)
  | keepLeft p q => do return .keepLeft (← build p) (← build q)
  | many p => do return .map (.many (← build p)) .list
  | many1 p => do return .map (.many1 (← build p)) .list
  | optional p => do return .map (.optional (← build p)) .ofOption
  | trim p => do return .trim (← build p)
  | sepBy p sep => do return .map (.sepBy (← build p) (← build sep)) .list
  | between opening closing p => do
    return .between (← build opening) (← build closing) (← build p)
  | choice ps => do return .choose (← buildAll ps)
  | sequence ps => do return .map (.inOrder (← buildAll ps)) .list
  | notAhead p => do return .map (.notAhead (← build p)) fun _ => .unit
  | lookAhead p => do return .lookAhead (← build p)
  | takeUntil p => do return .map (.takeUntil (← build p)) .text
  | label p m => do return .label (← build p) m
  | withSpan p => do return .map (.withSpan (← build p)) fun (v, s) => .spanned v s
  | rule name announced => .ok (call name announced)
  | tap name p => do return .tap name (← build p)
  | note tag p => do
    return .note (← build p) fun v => tag ++ "(" ++ String.ofList v.toText ++ ")"

def buildAll : List Blueprint → Except Origin (List Built)
  | [] => .ok []
  | p :: ps => do return (← build p) :: (← buildAll ps)
end

/-- A parser with the rules it may refer to. -/
structure Kit where
  rules : List (String × Built)
  parser : Built

namespace Kit

def grammar (k : Kit) : Grammar signature := fun (name : String) =>
  (k.rules.lookup name).getD (.fail "no such rule")

/-- Calls of rules that are nested deeper than this repeat a rule at a place where it
is already being tried, and so never return. -/
def depth (k : Kit) (t : Text) : Nat := (k.rules.length + 1) * (t.size + 1) + 1

def parse (k : Kit) (c : Cursor) : Run Value :=
  Parser.parseWithin k.grammar (k.depth c.text) k.parser c

def runAt (k : Kit) (t : Text) (index : Nat) : Run Value :=
  Parser.runAt k.grammar (k.depth t) k.parser t index

end Kit

def buildRules : List (String × Blueprint) → Except Origin (List (String × Built))
  | [] => .ok []
  | (name, p) :: rest => do return (name, ← build p) :: (← buildRules rest)

/-- The kit of a blueprint and named rules.  The rules come first, in order of their
names. -/
def assemble (rules : List (String × Blueprint)) (p : Blueprint) : Except Origin Kit := do
  let rules ← buildRules (rules.mergeSort fun a b => decide (a.1 ≤ b.1))
  return ⟨rules, ← build p⟩

end Blueprint
end TextGrammar
