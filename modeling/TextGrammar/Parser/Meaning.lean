/-
What parsers mean.

`denote` gives the meaning of a parser from a meaning of the rules.  `parseWithin`
takes the meaning of the rules from a grammar, with a bound on the nesting of calls.
What a parser does with a bound is put together from what its parts do with it.
-/
import TextGrammar.Parser
import TextGrammar.Recogniser

namespace TextGrammar
namespace Parser

variable {S : Signature}

/-- The meaning of a parser, given a meaning of the rules. -/
def denote (call : (r : S.Rule) → Recogniser (S.Result r)) :
    {α : Type} → Parser S α → Recogniser α
  | _, literal text => .literal text
  | _, pattern p => .pattern p
  | _, succeed v => fun c => Run.success v c
  | _, fail m => fun c => Run.failAt c (.message m)
  | _, endOfInput => .endOfInput
  | _, map p f => fun c => (denote call p c).andThen fun v next => Run.success (f v) next
  | _, chain p f => fun c => (denote call p c).andThen fun v next => denote call (f v) next
  | _, filter p keep m => .filter (denote call p) keep m
  | _, orElse p q => fun c => (denote call p c).resolve Run.success fun _ => denote call q c
  | _, keepRight p q => fun c => (denote call p c).andThen fun _ next => denote call q next
  | _, keepLeft p q => fun c =>
    (denote call p c).andThen fun v next =>
      (denote call q next).andThen fun _ last => Run.success v last
  | _, many p => .many (denote call p)
  | _, many1 p => .many1 (denote call p)
  | _, optional p => .optional (denote call p)
  | _, trim p => .trim (S.engine.leaf .whitespace) (denote call p)
  | _, sepBy p sep => .sepBy (denote call p) (denote call sep)
  | _, between opening closing p => fun c =>
    (denote call opening c).andThen fun _ inner =>
      (denote call p inner).andThen fun v next =>
        (denote call closing next).andThen fun _ last => Run.success v last
  | _, choice ps => .choice (List.ofFn fun i => denote call (ps i))
  | _, sequence ps => .sequence (List.ofFn fun i => denote call (ps i))
  | _, notAhead p => fun c =>
    (denote call p c).resolve (fun _ _ => Run.failAt c .unexpectedMatch)
      fun _ => Run.success () c
  | _, lookAhead p => fun c => (denote call p c).andThen fun v _ => Run.success v c
  | _, takeUntil stop => .takeUntil (denote call stop)
  | _, label p m => fun c =>
    (denote call p c).resolve Run.success fun f => Run.failure { f with cause := .message m }
  | _, withSpan p => fun c =>
    (denote call p c).andThen fun v next => Run.success (v, ⟨c.offset, next.offset⟩) next
  | _, rule r => call r
  | _, tap name p => fun c =>
    (denote call p c).record fun o => .tapped name c.offset o.ending
  | _, note p text => fun c =>
    (denote call p c).andThen fun v next => Run.after [.noted (text v)] (Run.success v next)

/-- The meaning of a parser in a grammar, with calls of rules nested at most `depth`
deep. -/
def parseWithin (g : Grammar S) : Nat → {α : Type} → Parser S α → Recogniser α
  | 0, _, p => denote (fun _ _ => .error .nestingTooDeep) p
  | depth + 1, _, p => denote (fun r => parseWithin g depth (g r)) p

section

variable {α β : Type} (g : Grammar S) (depth : Nat)

theorem parseWithin_pattern (x : Pattern) :
    parseWithin g depth (pattern x) = Recogniser.pattern x := by
  cases depth <;> rfl

theorem parseWithin_chain (p : Parser S α) (next : α → Parser S β) :
    parseWithin g depth (chain p next) =
      fun c => (parseWithin g depth p c).andThen fun v => parseWithin g depth (next v) := by
  cases depth <;> rfl

theorem parseWithin_keepRight (p : Parser S α) (q : Parser S β) :
    parseWithin g depth (keepRight p q) =
      fun c => (parseWithin g depth p c).andThen fun _ => parseWithin g depth q := by
  cases depth <;> rfl

theorem parseWithin_many (p : Parser S α) :
    parseWithin g depth (many p) = Recogniser.many (parseWithin g depth p) := by
  cases depth <;> rfl

theorem parseWithin_many1 (p : Parser S α) :
    parseWithin g depth (many1 p) = Recogniser.many1 (parseWithin g depth p) := by
  cases depth <;> rfl

theorem parseWithin_optional (p : Parser S α) :
    parseWithin g depth (optional p) = Recogniser.optional (parseWithin g depth p) := by
  cases depth <;> rfl

theorem parseWithin_trim (p : Parser S α) :
    parseWithin g depth (trim p) =
      Recogniser.trim (S.engine.leaf .whitespace) (parseWithin g depth p) := by
  cases depth <;> rfl

theorem parseWithin_takeUntil (stop : Parser S α) :
    parseWithin g depth (takeUntil stop) = Recogniser.takeUntil (parseWithin g depth stop) := by
  cases depth <;> rfl

theorem parseWithin_withSpan (p : Parser S α) :
    parseWithin g depth (withSpan p) = fun c =>
      (parseWithin g depth p c).andThen fun v next =>
        Run.success (v, ⟨c.offset, next.offset⟩) next := by
  cases depth <;> rfl

end

/-- Parse `text` from the first place at or after the byte offset `index`, and record
how it ended. -/
def runAt (g : Grammar S) (depth : Nat) {α : Type} (p : Parser S α) (text : Text)
    (index : Nat) : Run α :=
  let start := Cursor.ofOffset text index
  (parseWithin g depth p start).record (Outcome.summary start.offset)

end Parser
end TextGrammar
