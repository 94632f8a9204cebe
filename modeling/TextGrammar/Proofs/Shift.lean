/-
Parsing does not depend on what stands in front.

`shift` puts a text in front of what a run is about: its cursors, its failures and its
records move by the size of that text.  Parsers without patterns of the caller and without
ranges see neither the text in front of them nor absolute offsets, so they commute with it.
-/
import TextGrammar.Proofs.Nested
import TextGrammar.Proofs.Pattern.Threads
import TextGrammar.Proofs.Uses

namespace TextGrammar

variable {α β : Type}

/-! ## Texts with another one in front -/

namespace Text

theorem dropBytes?_add (u t : Text) (n : Nat) :
    dropBytes? (u ++ t) (size u + n) = dropBytes? t n := by
  induction u with
  | nil => simp [size]
  | cons c u ih =>
    have hpos := c.utf8Size_pos
    obtain ⟨k, hk⟩ : ∃ k, c.utf8Size + size u + n = k + 1 :=
      ⟨c.utf8Size + size u + n - 1, by omega⟩
    have hle : c.utf8Size ≤ k + 1 := by omega
    have hsub : k + 1 - c.utf8Size = size u + n := by omega
    simp only [List.cons_append, size, hk, dropBytes?, hle, if_true, hsub, ih]

theorem slice?_add (u t : Text) (i j : Nat) :
    slice? (u ++ t) (size u + i) (size u + j) = slice? t i j := by
  have hsub : size u + j - (size u + i) = j - i := by omega
  simp only [slice?, dropBytes?_add, hsub, Nat.add_le_add_iff_left]

theorem ceil_add (u t : Text) (n : Nat) : ceil (u ++ t) (size u + n) = size u + ceil t n := by
  induction u with
  | nil => simp [size]
  | cons c u ih =>
    have hpos := c.utf8Size_pos
    obtain ⟨k, hk⟩ : ∃ k, c.utf8Size + size u + n = k + 1 :=
      ⟨c.utf8Size + size u + n - 1, by omega⟩
    have hsub : k + 1 - c.utf8Size = size u + n := by omega
    simp only [List.cons_append, size, hk, ceil, hsub, ih]
    omega

end Text

def Location.shift (u : Text) (l : Location) : Location := ⟨u ++ l.text, u.size + l.offset⟩

def Cursor.shift (u : Text) (c : Cursor) : Cursor := ⟨u ++ c.text, u.size + c.offset⟩

def Failure.shift (u : Text) (f : Failure) : Failure := ⟨f.cause, f.location.shift u⟩

def Outcome.shift (u : Text) : Outcome α → Outcome α
  | success v next => .success v (next.shift u)
  | failure f => .failure (f.shift u)

def Ending.shift (n : Nat) : Ending → Ending
  | success offset => .success (n + offset)
  | failure position => .failure (n + position)

/-- The record of a run that began `n` bytes further on. -/
def Record.shift (n : Nat) : Record → Record
  | repetitionEnded i => .repetitionEnded (n + i)
  | listEnded i => .listEnded (n + i)
  | succeeded a b => .succeeded (n + a) (n + b)
  | failed e a message => .failed (n + e) (n + a) message
  | tapped name a ending => .tapped name (n + a) (ending.shift n)
  | noted text => .noted text

/-- The run with `u` in front of its text. -/
def Run.shift (u : Text) : Run α → Run α
  | .ok (o, log) => .ok (o.shift u, log.map (Record.shift u.size))
  | .error b => .error b

namespace Cursor

variable (u : Text) (c d : Cursor)

theorem rest?_shift : (c.shift u).rest? = c.rest? := Text.dropBytes?_add u c.text c.offset

theorem atEnd_shift : (c.shift u).atEnd = c.atEnd := by
  have hiff : u.size + c.offset = u.size + c.text.size ↔ c.offset = c.text.size := by omega
  rw [atEnd, atEnd, Bool.eq_iff_iff, beq_iff_eq, beq_iff_eq]
  simp only [shift, Text.size_append, hiff]

theorem remaining_shift : (c.shift u).remaining = c.remaining := by
  simp only [remaining, shift, Text.size_append]
  omega

theorem advance_shift (n : Nat) : (c.shift u).advance n = (c.advance n).shift u := by
  have hmin : min (u.size + c.offset + n) (u.size + c.text.size) =
      u.size + min (c.offset + n) c.text.size := by omega
  simp only [advance, shift, Text.size_append, hmin]

theorem moved_shift_iff :
    (d.shift u).offset = (c.shift u).offset ↔ d.offset = c.offset := by
  simp only [shift]
  omega

theorem sliceTo?_shift : (c.shift u).sliceTo? (d.shift u) = c.sliceTo? d := by
  have hmax : max (u.size + d.offset) (u.size + c.offset) = u.size + max d.offset c.offset := by
    omega
  simp only [sliceTo?, shift, hmax, Text.slice?_add]

theorem shift_ofOffset (s : Text) (i : Nat) :
    (ofOffset s i).shift u = ofOffset (u ++ s) (u.size + i) := by
  rw [ofOffset, ofOffset, Text.ceil_add]
  rfl

end Cursor

/-! ## The correspondence -/

/-- A run and the same run with `u` in front of its text. -/
def Correspondence.shifted (u : Text) : Correspondence where
  cursor c d := d = c.shift u
  failure e f := f = e.shift u
  log l m := m = l.map (Record.shift u.size)
  abandons _ := False
  rest_eq := by
    intro c d h
    subst h
    exact (c.rest?_shift u).symm
  atEnd_eq := by
    intro c d h
    subst h
    exact (c.atEnd_shift u).symm
  remaining_eq := by
    intro c d h
    subst h
    exact (c.remaining_shift u).symm
  advance := by
    intro c d s r h _
    subst h
    exact c.advance_shift u s.size
  moved_iff := by
    intro c d c' d' h h'
    subst h h'
    exact (c.moved_shift_iff u c').symm
  slice_eq := by
    intro c d c' d' h h'
    subst h h'
    exact (c.sliceTo?_shift u c').symm
  failAt := by
    intro c d cause h
    subst h
    rfl
  relabel := by
    intro e f cause h
    subst h
    rfl
  log_nil := rfl
  log_append := by
    intro l m l' m' h h'
    subst h h'
    exact List.map_append.symm
  repetitionEnded := by
    intro c d h
    subst h
    rfl
  listEnded := by
    intro c d h
    subst h
    rfl
  noted _ := rfl
  tapped_success := by
    intro name c d c' d' h h'
    subst h h'
    rfl
  tapped_failure := by
    intro name c d e f h h'
    subst h h'
    rfl

open Correspondence

theorem Run.Alike.eq_shift {u : Text} {r s : Run α} (h : Alike (shifted u) r s) :
    s = r.shift u := by
  cases h with
  | success hc hl =>
    obtain rfl := hc
    obtain rfl := hl
    rfl
  | failure hf hl =>
    obtain rfl := hf
    obtain rfl := hl
    rfl
  | breakdown b => rfl
  | abandoned hb => exact hb.elim

theorem Run.record_shift (u : Text) (r : Run α) (start : Nat) :
    (r.shift u).record (Outcome.summary (u.size + start)) =
      (r.record (Outcome.summary start)).shift u := by
  rcases r with b | ⟨o, log⟩
  · rfl
  · simp only [Run.shift, Run.record, List.map_append]
    cases o with
    | success v next => rfl
    | failure f => rfl

/-! ## Parsers -/

namespace Recogniser

/-- A pattern that does not see what is in front of a place needs the rest only. -/
theorem pattern_eq_reading {p : Pattern}
    (hp : ∀ before before' t, p.matched? before t = p.matched? before' t) (c : Cursor) :
    pattern p c = Run.reading c.rest? fun rest =>
      match p.matched? none rest with
      | some t => Run.success t (c.advance t.size)
      | none => Run.failAt c (.expectedPattern p.source) := by
  rw [pattern, ← c.surroundings?_map_snd]
  cases c.surroundings? with
  | none => rfl
  | some x =>
    exact congrArg
      (fun
        | some t => Run.success t (c.advance t.size)
        | none => Run.failAt c (.expectedPattern p.source))
      (hp x.1 none x.2)

theorem alike_pattern {σ : Correspondence} {p : Pattern}
    (hp : ∀ before before' t, p.matched? before t = p.matched? before' t) :
    Alike σ (pattern p) (pattern p) := by
  intro c d h
  rw [pattern_eq_reading hp, pattern_eq_reading hp, ← σ.rest_eq h]
  refine .reading fun rest hrest => ?_
  cases hm : p.matched? none rest with
  | none => exact Run.alike_failAt h _
  | some t =>
    obtain ⟨r, rfl⟩ := Pattern.matched?_prefix hm
    exact Run.alike_success _ (σ.advance h hrest)

end Recogniser

namespace Parser

variable {S : Signature} {call call' : (r : S.Rule) → Recogniser (S.Result r)}

/-- Parsers that see neither what is in front of them nor absolute offsets: their patterns
are those of built-in classes, and they do not ask for ranges. -/
def Relocatable (p : Parser S α) : Prop := p.Uses (fun x => ∃ l, S.engine.leaf l = x) False

open Recogniser

theorem Relocatable.alike {σ : Correspondence} (hE : S.engine.LeavesIgnoreFront)
    (hcall : ∀ r, Alike σ (call r) (call' r))
    {p : Parser S α} (hp : p.Relocatable) : Alike σ (denote call p) (denote call' p) := by
  have hpatterns (x : Pattern) (hx : ∃ l, S.engine.leaf l = x) :
      Alike σ (Recogniser.pattern x) (Recogniser.pattern x) := by
    obtain ⟨l, rfl⟩ := hx
    exact alike_pattern (hE l)
  exact Uses.alike False.elim hpatterns (hpatterns _ ⟨.whitespace, rfl⟩) hcall hp

variable {g : Grammar S}

theorem parseWithin_shift (hE : S.engine.LeavesIgnoreFront) (hg : ∀ r, (g r).Relocatable)
    (depth : Nat) {p : Parser S α}
    (hp : p.Relocatable) (u : Text) (c : Cursor) :
    parseWithin g depth p (c.shift u) = (parseWithin g depth p c).shift u := by
  have halike : ∀ {α : Type} {p : Parser S α}, p.Relocatable →
      Alike (shifted u) (parseWithin g depth p) (parseWithin g depth p) := by
    induction depth with
    | zero => exact fun hp => hp.alike hE fun _ _ _ _ => .breakdown _
    | succ depth ih => exact fun hp => hp.alike hE fun r => ih (hg r)
  exact (halike hp c (c.shift u) rfl).eq_shift

/-- With a text in front and an offset that is larger by its size, parsing ends in the same
way, with the same value or the same failure and with the same records, all of them moved
by that size. -/
theorem runAt_shift (hE : S.engine.LeavesIgnoreFront) (hg : ∀ r, (g r).Relocatable) (depth : Nat)
    {p : Parser S α}
    (hp : p.Relocatable) (u s : Text) (i : Nat) :
    runAt g depth p (u ++ s) (u.size + i) = (runAt g depth p s i).shift u := by
  have hstart := Cursor.shift_ofOffset u s i
  rw [runAt, runAt, ← hstart, parseWithin_shift hE hg depth hp, ← Run.record_shift]
  rfl

/-- The same brackets at the start of a text and behind a character of two bytes. -/
theorem nested_shift :
    Nested.signature.engine.LeavesIgnoreFront ∧
    (∀ r, (Nested.grammar r).Relocatable) ∧
    (trim (rule ()) : Parser Nested.signature Nat).Relocatable ∧
    runAt Nested.grammar 3 (trim (rule ())) ['é', ' ', '(', 'x', ')'] 2 =
      .ok (.success 1 ⟨['é', ' ', '(', 'x', ')'], 6⟩, [.succeeded 2 6]) := by
  have hg (r : Nested.signature.Rule) : (Nested.grammar r).Relocatable :=
    ⟨⟨trivial, trivial, trivial⟩, trivial⟩
  have hp : (trim (rule ()) : Parser Nested.signature Nat).Relocatable := trivial
  have hE : Nested.signature.engine.LeavesIgnoreFront :=
    Engine.leavesIgnoreFront Engine.leftmostFirst_threads_builtIn
  refine ⟨hE, hg, hp, (runAt_shift hE hg 3 hp ['é'] [' ', '(', 'x', ')'] 0).trans ?_⟩
  rfl

end Parser
end TextGrammar
