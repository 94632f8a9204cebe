/-
Parsers.

A parser is a description: a tree whose leaves recognise text and whose nodes combine
parsers.  Its type names the values it yields.  `rule` refers to another parser by
name, so a family of parsers can be recursive; a `Grammar` says what each name stands
for, and a `Signature` which names there are and what they yield.  A signature also names
the engine that patterns are compiled by.

What a parser does with a text is defined in `TextGrammar.Parser.Meaning`.
-/
import TextGrammar.Engine
import TextGrammar.Span

namespace TextGrammar

structure Signature where
  engine : Engine
  Rule : Type
  Result : Rule → Type

inductive Parser (S : Signature) : Type → Type 1 where
  /-- Exactly this text. -/
  | literal (text : Text) : Parser S Text
  /-- The text that a pattern matches. -/
  | pattern (p : Pattern) : Parser S Text
  /-- Nothing; always succeeds. -/
  | succeed {α : Type} (value : α) : Parser S α
  | fail {α : Type} (message : String) : Parser S α
  | endOfInput : Parser S Unit
  | map {α β : Type} (p : Parser S α) (f : α → β) : Parser S β
  /-- First `p`, then the parser that its value selects. -/
  | chain {α β : Type} (p : Parser S α) (next : α → Parser S β) : Parser S β
  /-- As `p` if its value passes; a failure at its start otherwise. -/
  | filter {α : Type} (p : Parser S α) (keep : α → Bool) (message : String) : Parser S α
  /-- As `p`, or as `q` at the same place if `p` fails. -/
  | orElse {α : Type} (p q : Parser S α) : Parser S α
  /-- First `p`, then `q` for its value. -/
  | keepRight {α β : Type} (p : Parser S α) (q : Parser S β) : Parser S β
  /-- First `p` for its value, then `q`. -/
  | keepLeft {α β : Type} (p : Parser S α) (q : Parser S β) : Parser S α
  /-- As many matches of `p` as possible.  A match that consumes nothing is the last. -/
  | many {α : Type} (p : Parser S α) : Parser S (List α)
  /-- As `many`, but at least one match. -/
  | many1 {α : Type} (p : Parser S α) : Parser S (List α)
  | optional {α : Type} (p : Parser S α) : Parser S (Option α)
  /-- As `p`, with white space on either side. -/
  | trim {α : Type} (p : Parser S α) : Parser S α
  /-- As many matches of `p` as possible, possibly none, with a match of `sep` between
  two of them.  A separator that no item follows is not consumed. -/
  | sepBy {α β : Type} (p : Parser S α) (sep : Parser S β) : Parser S (List α)
  | between {α β γ : Type} (opening : Parser S α) (closing : Parser S β) (p : Parser S γ) :
    Parser S γ
  /-- The first of the parsers that succeeds; fails as the last one does. -/
  | choice {α : Type} {n : Nat} (ps : Fin n → Parser S α) : Parser S α
  /-- All the parsers, one after the other. -/
  | sequence {α : Type} {n : Nat} (ps : Fin n → Parser S α) : Parser S (List α)
  /-- Nothing, where `p` fails. -/
  | notAhead {α : Type} (p : Parser S α) : Parser S Unit
  /-- The value of `p`, consuming nothing. -/
  | lookAhead {α : Type} (p : Parser S α) : Parser S α
  /-- The text in front of the first place where `stop` succeeds, or all the rest. -/
  | takeUntil {α : Type} (stop : Parser S α) : Parser S Text
  /-- As `p`, but failures have another message. -/
  | label {α : Type} (p : Parser S α) (message : String) : Parser S α
  /-- The value of `p` with the range it has consumed. -/
  | withSpan {α : Type} (p : Parser S α) : Parser S (α × Span)
  | rule (r : S.Rule) : Parser S (S.Result r)
  /-- As `p`, with a record of where it began and how it ended. -/
  | tap {α : Type} (name : String) (p : Parser S α) : Parser S α
  /-- As `p`, with a record of each value as a text. -/
  | note {α : Type} (p : Parser S α) (text : α → String) : Parser S α

/-- What each rule stands for. -/
abbrev Grammar (S : Signature) := (r : S.Rule) → Parser S (S.Result r)

namespace Parser

variable {S : Signature} {α : Type}

/-- The first of a list of parsers that succeeds. -/
def choose (ps : List (Parser S α)) : Parser S α := choice ps.get

/-- All of a list of parsers, one after the other. -/
def inOrder (ps : List (Parser S α)) : Parser S (List α) := sequence ps.get

/-- The text that stands for a parser whose parts are not shown. -/
def display (_ : Parser S α) : String := "BoxedParser \x7b parser: \"<parser>\" \x7d"

/-- A parser with a given pattern, if the text is one. -/
def ofPattern? (source : String) : Option (Parser S Text) :=
  (S.engine.pattern? source).map pattern

def digits : Parser S Text := pattern (S.engine.leaf .digits)

def letters : Parser S Text := pattern (S.engine.leaf .letters)

def alphanumeric : Parser S Text := pattern (S.engine.leaf .alphanumeric)

def identifier : Parser S Text := pattern (S.engine.leaf .identifier)

def whitespace : Parser S Text := pattern (S.engine.leaf .whitespace)

end Parser
end TextGrammar
