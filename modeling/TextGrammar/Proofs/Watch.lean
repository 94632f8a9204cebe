/-
Watched parsers.

A watched parser has a tap on itself and on each of its parts, in rules and in what
continuations select as well.  Its records tell where each part was tried and where it
ended.  `untapped_parseWithin_watched` says that watching changes nothing else.
-/
import TextGrammar.Parser.Meaning
import TextGrammar.Proofs.Correspondence

namespace TextGrammar

variable {S : Signature} {α β : Type}

def Record.isTap : Record → Bool
  | tapped .. => true
  | _ => false

/-- A run without the records of taps. -/
def Run.untapped : Run α → Run α
  | .ok (o, log) => .ok (o, log.filter fun r => !r.isTap)
  | .error b => .error b

namespace Parser

/-- A parser with a tap on it and on each of its parts. -/
def watched (name : String) : {α : Type} → Parser S α → Parser S α
  | _, literal t => tap name (literal t)
  | _, pattern p => tap name (pattern p)
  | _, succeed v => tap name (succeed v)
  | _, fail m => tap name (fail m)
  | _, endOfInput => tap name endOfInput
  | _, map p f => tap name (map (watched name p) f)
  | _, chain p next => tap name (chain (watched name p) fun v => watched name (next v))
  | _, filter p keep m => tap name (filter (watched name p) keep m)
  | _, orElse p q => tap name (orElse (watched name p) (watched name q))
  | _, keepRight p q => tap name (keepRight (watched name p) (watched name q))
  | _, keepLeft p q => tap name (keepLeft (watched name p) (watched name q))
  | _, many p => tap name (many (watched name p))
  | _, many1 p => tap name (many1 (watched name p))
  | _, optional p => tap name (optional (watched name p))
  | _, trim p => tap name (trim (watched name p))
  | _, sepBy p sep => tap name (sepBy (watched name p) (watched name sep))
  | _, between opening closing p =>
    tap name (between (watched name opening) (watched name closing) (watched name p))
  | _, choice ps => tap name (choice fun i => watched name (ps i))
  | _, sequence ps => tap name (sequence fun i => watched name (ps i))
  | _, notAhead p => tap name (notAhead (watched name p))
  | _, lookAhead p => tap name (lookAhead (watched name p))
  | _, takeUntil p => tap name (takeUntil (watched name p))
  | _, label p m => tap name (label (watched name p) m)
  | _, withSpan p => tap name (withSpan (watched name p))
  | _, rule r => tap name (rule r)
  | _, tap n p => tap name (tap n (watched name p))
  | _, note p text => tap name (note (watched name p) text)

end Parser

def Grammar.watched (name : String) (g : Grammar S) : Grammar S := fun r => (g r).watched name

theorem filter_append_congr {keep : Record → Bool} {l m l' m' : List Record}
    (h : l.filter keep = m.filter keep) (h' : l'.filter keep = m'.filter keep) :
    (l ++ l').filter keep = (m ++ m').filter keep := by
  rw [List.filter_append, List.filter_append, h, h']

/-- The same runs but for the records of taps. -/
def Correspondence.butForTaps : Correspondence :=
  onSameOutcomes (fun l m => (l.filter fun r => !r.isTap) = m.filter fun r => !r.isTap)
    (fun _ => False) (fun _ => rfl) (fun _ _ _ _ h h' => filter_append_congr h h')

namespace Run

open Correspondence

theorem Alike.untapped {r s : Run α} (h : Alike butForTaps r s) : r.untapped = s.untapped := by
  cases h with
  | success hc hl =>
    obtain rfl := hc
    exact congrArg (fun l => Except.ok (_, l)) hl
  | failure hf hl =>
    obtain rfl := hf
    exact congrArg (fun l => Except.ok (_, l)) hl
  | breakdown b => rfl
  | abandoned hb => exact hb.elim

/-- A tap makes no other difference. -/
theorem Alike.tapLeft {r s : Run α} (h : Alike butForTaps r s) (name : String) (start : Nat) :
    Alike butForTaps (r.record fun o => .tapped name start o.ending) s := by
  have hdrop (l : List Record) (e : Ending) :
      ((l ++ [Record.tapped name start e]).filter fun r => !r.isTap) =
        l.filter fun r => !r.isTap := by
    rw [List.filter_append]
    exact List.append_nil _
  cases h with
  | success hc hl => exact .success hc ((hdrop _ _).trans hl)
  | failure hf hl => exact .failure hf ((hdrop _ _).trans hl)
  | breakdown b => exact .breakdown b
  | abandoned hb => exact hb.elim

end Run

namespace Parser

open Correspondence Recogniser

variable {call call' : (r : S.Rule) → Recogniser (S.Result r)}

theorem alike_butForTaps_self (p : Recogniser α) : Alike butForTaps p p :=
  alike_self (fun _ _ h => h) (fun _ => rfl) (fun _ => rfl) (fun _ => rfl) p

theorem alike_denote_watched (hcall : ∀ r, Alike butForTaps (call r) (call' r)) (name : String)
    (p : Parser S α) : Alike butForTaps (denote call (p.watched name)) (denote call' p) := by
  have tapped {β : Type} {q q' : Recogniser β} (h : Alike butForTaps q q') :
      Alike butForTaps (fun c => (q c).record fun o => .tapped name c.offset o.ending) q' :=
    fun c d hcd => (h c d hcd).tapLeft name c.offset
  induction p with
  | literal t => exact tapped (alike_literal t)
  | pattern p => exact tapped (alike_butForTaps_self _)
  | succeed v => exact tapped (alike_succeed v)
  | fail m => exact tapped (alike_fail _)
  | endOfInput => exact tapped alike_endOfInput
  | map p f ih => exact tapped (ih.andThen fun v => alike_succeed (f v))
  | chain p next ih ihnext => exact tapped (ih.andThen ihnext)
  | filter p keep m ih => exact tapped (ih.filter keep m)
  | orElse p q ihp ihq => exact tapped (ihp.orElse ihq)
  | keepRight p q ihp ihq => exact tapped (ihp.andThen fun _ => ihq)
  | keepLeft p q ihp ihq => exact tapped (ihp.followedBy ihq)
  | many p ih => exact tapped ih.many
  | many1 p ih => exact tapped ih.many1
  | optional p ih => exact tapped ih.optional
  | trim p ih => exact tapped (.trim (alike_butForTaps_self _) ih)
  | sepBy p sep ihp ihsep => exact tapped (ihp.sepBy ihsep)
  | between opening closing p iho ihc ihp =>
    exact tapped (iho.andThen fun _ => ihp.followedBy ihc)
  | choice ps ih => exact tapped (alike_choice ih)
  | sequence ps ih => exact tapped (alike_sequence ih)
  | notAhead p ih => exact tapped ih.notAhead
  | lookAhead p ih => exact tapped ih.lookAhead
  | takeUntil p ih => exact tapped ih.takeUntil
  | label p m ih => exact tapped (ih.label m)
  | withSpan p ih => exact tapped (ih.withSpan fun _ _ h => congrArg Cursor.offset h)
  | rule r => exact tapped (hcall r)
  | tap n p ih => exact tapped (ih.tap n)
  | note p text ih => exact tapped (ih.note text)

theorem untapped_parseWithin_watched (g : Grammar S) (depth : Nat) (name : String)
    (p : Parser S α) (c : Cursor) :
    (parseWithin (g.watched name) depth (p.watched name) c).untapped =
      (parseWithin g depth p c).untapped := by
  have halike : ∀ {α : Type} (p : Parser S α), Alike butForTaps
      (parseWithin (g.watched name) depth (p.watched name)) (parseWithin g depth p) := by
    induction depth with
    | zero => exact alike_denote_watched (fun _ _ _ _ => .breakdown _) name
    | succ depth ih => exact alike_denote_watched (fun r => ih (g r)) name
  exact (halike p c c rfl).untapped

end Parser
end TextGrammar
