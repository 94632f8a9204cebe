/-
The bound on the nesting of calls.

A run that has an outcome keeps it, with all its records, under every greater bound.  So a
parser returns at most one result at a place, whatever bound is needed to see it.
-/
import TextGrammar.Proofs.Uses

namespace TextGrammar

variable {S : Signature} {α : Type}

/-- The same runs, where the second may go on after the first has met its bound. -/
def Correspondence.deeper : Correspondence :=
  onSameOutcomes Eq (· = .nestingTooDeep) (fun _ => rfl) fun l m l' m' h h' => by
    rw [h, h']

open Correspondence

theorem Run.Alike.eq_of_ok {r s : Run α} {x : Outcome α × List Record} (h : Alike deeper r s)
    (hr : r = .ok x) : s = .ok x := by
  cases h with
  | success hc hl =>
    obtain rfl := hc
    obtain rfl := hl
    exact hr
  | failure hf hl =>
    obtain rfl := hf
    obtain rfl := hl
    exact hr
  | breakdown b => exact hr
  | abandoned hb => cases hr

namespace Parser

open Recogniser

theorem alike_deeper_self (p : Recogniser α) : Alike deeper p p :=
  alike_self (fun _ _ h => h) (fun _ => rfl) (fun _ => rfl) (fun _ => rfl) p

theorem alike_parseWithin_add (g : Grammar S) (depth k : Nat) (p : Parser S α) :
    Alike deeper (parseWithin g depth p) (parseWithin g (depth + k) p) := by
  have denoted {call call' : (r : S.Rule) → Recogniser (S.Result r)} {β : Type}
      (hcall : ∀ r, Alike deeper (call r) (call' r)) (q : Parser S β) :
      Alike deeper (denote call q) (denote call' q) :=
    q.uses_any.alike (fun _ _ _ h => congrArg Cursor.offset h)
      (fun _ _ => alike_deeper_self _) (alike_deeper_self _) hcall
  induction depth generalizing α with
  | zero =>
    cases k with
    | zero => exact alike_deeper_self _
    | succ k =>
      exact denoted (fun _ _ _ _ => .abandoned rfl) p
  | succ depth ih =>
    rw [Nat.succ_add]
    exact denoted (fun r => ih (g r)) p

theorem parseWithin_mono {g : Grammar S} {depth depth' : Nat} {p : Parser S α} {c : Cursor}
    {x : Outcome α × List Record} (h : parseWithin g depth p c = .ok x) (hle : depth ≤ depth') :
    parseWithin g depth' p c = .ok x := by
  obtain ⟨k, rfl⟩ := Nat.exists_eq_add_of_le hle
  exact (alike_parseWithin_add g depth k p c c rfl).eq_of_ok h

/-- With calls nested deeply enough, the parser returns this outcome and log. -/
def Returns (g : Grammar S) (p : Parser S α) (c : Cursor) (x : Outcome α × List Record) : Prop :=
  ∃ depth, parseWithin g depth p c = .ok x

/-- Two parsers that return do so with one bound. -/
theorem Returns.exists_common_depth {β : Type} {g : Grammar S} {p : Parser S α} {q : Parser S β}
    {c d : Cursor} {x : Outcome α × List Record} {y : Outcome β × List Record}
    (hx : Returns g p c x) (hy : Returns g q d y) :
    ∃ depth, parseWithin g depth p c = .ok x ∧ parseWithin g depth q d = .ok y := by
  obtain ⟨m, hm⟩ := hx
  obtain ⟨n, hn⟩ := hy
  exact ⟨max m n, parseWithin_mono hm (Nat.le_max_left m n),
    parseWithin_mono hn (Nat.le_max_right m n)⟩

theorem Returns.unique {g : Grammar S} {p : Parser S α} {c : Cursor}
    {x y : Outcome α × List Record} (hx : Returns g p c x) (hy : Returns g p c y) : x = y := by
  obtain ⟨depth, hdepth, hdepth'⟩ := hx.exists_common_depth hy
  exact Except.ok.inj (hdepth.symm.trans hdepth')

end Parser
end TextGrammar
