/-
Failures: a cause and a location, and how they print.
-/
import TextGrammar.Location

namespace TextGrammar

inductive Cause where
  | expectedLiteral (text : Text)
  | expectedPattern (source : String)
  | expectedEndOfInput
  | expectedAtLeastOne
  | unexpectedMatch
  | noAlternatives
  /-- A text of the caller. -/
  | message (text : String)
deriving DecidableEq, Repr

def Cause.text : Cause → String
  | .expectedLiteral t => "Expected \"" ++ String.ofList t ++ "\""
  | .expectedPattern s => "Expected pattern " ++ s
  | .expectedEndOfInput => "Expected end of input"
  | .expectedAtLeastOne => "Expected at least one match"
  | .unexpectedMatch => "Unexpected match"
  | .noAlternatives => "No alternatives to choose from"
  | .message t => t

structure Failure where
  cause : Cause
  location : Location
deriving DecidableEq, Repr

namespace Failure

def position (f : Failure) : Nat := f.location.offset

def message (f : Failure) : String := f.cause.text

/-- The message with its coordinate, an empty line, and the excerpt line by line, if
the machine has room for them. -/
def reportIn? (m : Machine) (f : Failure) : Option String :=
  match f.location.coordinate?, f.location.excerptIn? m with
  | some place, some entries =>
    Option.guard (·.utf8ByteSize ≤ m.room)
      (s!"Syntax error at line {place.line}, byte offset {place.byteOffset}: " ++ f.message ++
        "\n\n" ++ String.join (entries.map (· ++ "\n")))
  | _, _ => none

def report? (f : Failure) : Option String := f.reportIn? .strict

end Failure
end TextGrammar
