/-
What combinators do.

A recogniser is a run from each cursor.  Each combinator of `Parser` that is more than
going on after a part has its meaning here, as a function on recognisers.
-/
import TextGrammar.Pattern
import TextGrammar.Run

namespace TextGrammar

abbrev Recogniser (α : Type) := Cursor → Run α

namespace Recogniser

variable {α β γ : Type}

def literal (text : Text) : Recogniser Text := fun c =>
  Run.reading c.rest? fun rest =>
    if text.isPrefixOf rest then Run.success text (c.advance text.size)
    else Run.failAt c (.expectedLiteral text)

def pattern (p : Pattern) : Recogniser Text := fun c =>
  Run.reading c.surroundings? fun (before, rest) =>
    match p.matched? before rest with
    | some t => Run.success t (c.advance t.size)
    | none => Run.failAt c (.expectedPattern p.source)

def endOfInput : Recogniser Unit := fun c =>
  if c.atEnd then Run.success () c else Run.failAt c .expectedEndOfInput

def filter (p : Recogniser α) (keep : α → Bool) (message : String) : Recogniser α := fun c =>
  (p c).andThen fun v next =>
    if keep v then Run.success v next else Run.failAt c (.message message)

/-- Repeat `p` for at most the given number of times.  The last cursor of the result
is the one where `p` failed or consumed nothing. -/
def repeated (p : Recogniser α) : Nat → Recogniser (List α)
  | 0, _ => .error .endlessRepetition
  | n + 1, c =>
    (p c).resolve
      (fun v next =>
        if next.offset = c.offset then
          Run.after [.repetitionEnded c.offset] (Run.success [v] c)
        else (repeated p n next).andThen fun vs last => Run.success (v :: vs) last)
      (fun _ => Run.success [] c)

def many (p : Recogniser α) : Recogniser (List α) := fun c => repeated p (c.remaining + 1) c

def many1 (p : Recogniser α) : Recogniser (List α) := fun c =>
  (many p c).andThen fun vs next =>
    if vs.isEmpty then Run.failAt c .expectedAtLeastOne else Run.success vs next

def optional (p : Recogniser α) : Recogniser (Option α) := fun c =>
  (p c).resolve (fun v next => Run.success (some v) next) fun _ => Run.success none c

/-- Move past what the pattern of white space matches; stay where it matches nothing. -/
def blanks (white : Pattern) : Recogniser Unit := fun c =>
  (pattern white c).resolve (fun _ next => Run.success () next)
    fun _ => Run.success () c

def trim (white : Pattern) (p : Recogniser α) : Recogniser α := fun c =>
  (blanks white c).andThen fun _ first =>
    (p first).andThen fun v next =>
      (blanks white next).andThen fun _ last => Run.success v last

/-- The items behind the first, each after a separator, for at most the given number
of times. -/
def moreItems (p : Recogniser α) (sep : Recogniser β) : Nat → Recogniser (List α)
  | 0, _ => .error .endlessRepetition
  | n + 1, c =>
    ((sep c).andThen fun _ item => p item).resolve
      (fun v next =>
        if next.offset = c.offset then
          Run.after [.listEnded c.offset] (Run.success [v] c)
        else (moreItems p sep n next).andThen fun vs last => Run.success (v :: vs) last)
      (fun _ => Run.success [] c)

def sepBy (p : Recogniser α) (sep : Recogniser β) : Recogniser (List α) := fun c =>
  (p c).resolve
    (fun v next =>
      (moreItems p sep (next.remaining + 1) next).andThen fun vs last =>
        Run.success (v :: vs) last)
    (fun _ => Run.success [] c)

/-- The first success of a list, or its last failure. -/
def choice : List (Recogniser α) → Recogniser α
  | [], c => Run.failAt c .noAlternatives
  | [p], c => p c
  | p :: ps, c => (p c).resolve Run.success fun _ => choice ps c

def sequence : List (Recogniser α) → Recogniser (List α)
  | [], c => Run.success [] c
  | p :: ps, c =>
    (p c).andThen fun v next =>
      (sequence ps next).andThen fun vs last => Run.success (v :: vs) last

/-- Move on character by character to the first place where `stop` succeeds, or to
the end, for at most the given number of times. -/
def seek (stop : Recogniser α) : Nat → Recogniser Unit
  | 0, _ => .error .endlessRepetition
  | n + 1, c =>
    if c.atEnd then Run.success () c
    else
      (stop c).resolve (fun _ _ => Run.success () c) fun _ =>
        Run.reading c.next? fun next => seek stop n next

def takeUntil (stop : Recogniser α) : Recogniser Text := fun c =>
  (seek stop (c.remaining + 1) c).andThen fun _ last =>
    Run.reading (c.sliceTo? last) fun t => Run.success t last

end Recogniser

end TextGrammar
