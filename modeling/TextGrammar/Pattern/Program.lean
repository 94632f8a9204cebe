/-
Expressions as programs.

A program is a list of instructions numbered from zero.  `code e k` is the program
of `e` placed at number `k`: it is entered at its first instruction and left
through its end.  A fork names the preferred way first, so the order in which
threads are explored is the order of preference.
-/
import TextGrammar.Pattern.Expression

namespace TextGrammar

inductive Instr where
  | consume (s : CharSet)
  | check (l : Look)
  /-- Go on at both numbers, preferably at the first. -/
  | fork (preferred other : Nat)
  | jump (target : Nat)
  | accept
deriving DecidableEq, Repr

namespace Instr

/-- A fork between another round and the way out. -/
def again (greedy : Bool) (round out : Nat) : Instr :=
  if greedy then fork round out else fork out round

def isAccept : Instr → Bool
  | accept => true
  | _ => false

end Instr

namespace Expression

/-- Copies of a program, `n` of them, one after the other. -/
def copies (f : Nat → List Instr) : Nat → Nat → List Instr
  | 0, _ => []
  | n + 1, k => f k ++ copies f n (k + (f k).length)

/-- One round or more.  The fork stands behind the round, so a round that consumes
nothing cannot keep a later way out from being found. -/
def oneOrMore (f : Nat → List Instr) (greedy : Bool) (k : Nat) : List Instr :=
  let round := f k
  round ++ [.again greedy k (k + round.length + 1)]

/-- At most `n` rounds.  Each is behind a fork whose other way is the common end. -/
def atMost (f : Nat → List Instr) (greedy : Bool) (stop : Nat) : Nat → Nat → List Instr
  | 0, _ => []
  | n + 1, k =>
    let round := f (k + 1)
    .again greedy (k + 1) stop :: (round ++ atMost f greedy stop n (k + 1 + round.length))

/-- Any number of rounds that consume something.  Behind a round the fork in front of it
is entered again. -/
def loop (f : Nat → List Instr) (greedy : Bool) (k : Nat) : List Instr :=
  let round := f (k + 1)
  .again greedy (k + 1) (k + round.length + 2) :: (round ++ [.jump k])

/-- What the program of an expression costs, where waiting for a character of a set costs `cost`
and every other instruction one. -/
def costWith (cost : CharSet → Nat) : Expression → Nat
  | empty => 0
  | literal t => t.length
  | set s => cost s
  | look _ => 1
  | group _ e => costWith cost e
  | seq a b => costWith cost a + costWith cost b
  | alt a b => costWith cost a + costWith cost b + 2
  | atLeast 0 _ e => costWith cost e + 2
  | atLeast (n + 1) _ e => n * costWith cost e + (costWith cost e + 1)
  | between lo hi _ e => lo * costWith cost e + (hi - lo) * (costWith cost e + 1)

/-- The number of instructions an expression takes. -/
def size : Expression → Nat := costWith fun _ => 1

/-- The same, where each range of a set counts as an instruction. -/
def weight : Expression → Nat := costWith fun s => max 1 s.rangeCount

def code : Expression → Nat → List Instr
  | empty, _ => []
  | literal t, _ => t.map fun c => .consume (.single c)
  | set s, _ => [.consume s]
  | look l, _ => [.check l]
  | group _ e, k => code e k
  | seq a b, k =>
    let first := code a k
    first ++ code b (k + first.length)
  | alt a b, k =>
    let first := code a (k + 1)
    let second := code b (k + first.length + 2)
    .fork (k + 1) (k + first.length + 2) ::
      (first ++ .jump (k + first.length + 2 + second.length) :: second)
  | atLeast 0 greedy e, k =>
    if mustConsume e then loop (code e) greedy k
    else
      let rounds := oneOrMore (code e) greedy (k + 1)
      .again greedy (k + 1) (k + 1 + rounds.length) :: rounds
  | atLeast (n + 1) greedy e, k =>
    let fixed := copies (code e) n k
    fixed ++ oneOrMore (code e) greedy (k + fixed.length)
  | between lo hi greedy e, k =>
    let fixed := copies (code e) lo k
    let start := k + fixed.length
    let stop := start + (hi - lo) * (size e + 1)
    fixed ++ atMost (code e) greedy stop (hi - lo) start

theorem copies_length {f : Nat → List Instr} {m : Nat} (hf : ∀ k, (f k).length = m)
    (n k : Nat) : (copies f n k).length = n * m := by
  induction n generalizing k with
  | zero => simp [copies]
  | succ n ih => simp only [copies, List.length_append, hf, ih, Nat.succ_mul, Nat.add_comm]

theorem oneOrMore_length {f : Nat → List Instr} {m : Nat} (hf : ∀ k, (f k).length = m)
    (greedy : Bool) (k : Nat) : (oneOrMore f greedy k).length = m + 1 := by
  simp [oneOrMore, hf]

theorem loop_length {f : Nat → List Instr} {m : Nat} (hf : ∀ k, (f k).length = m)
    (greedy : Bool) (k : Nat) : (loop f greedy k).length = m + 2 := by
  simp [loop, hf]

theorem atMost_length {f : Nat → List Instr} {m : Nat} (hf : ∀ k, (f k).length = m)
    (greedy : Bool) (stop n k : Nat) : (atMost f greedy stop n k).length = n * (m + 1) := by
  induction n generalizing k with
  | zero => simp [atMost]
  | succ n ih =>
    simp only [atMost, List.length_cons, List.length_append, hf, ih, Nat.succ_mul]
    omega

/-- The place of a program does not change its length, so the ways out of bounded rounds lead to
the end of these. -/
theorem code_length (e : Expression) (k : Nat) : (code e k).length = size e := by
  induction e generalizing k with
  | empty => rfl
  | literal t => simp [code, size, costWith]
  | set s => rfl
  | look l => rfl
  | group n e ih => exact ih k
  | seq a b iha ihb => simp only [code, size, costWith, List.length_append, iha, ihb]
  | alt a b iha ihb =>
    simp only [code, size, costWith, List.length_cons, List.length_append, iha, ihb]
    omega
  | atLeast n greedy e ih =>
    cases n with
    | zero =>
      simp only [code, size, costWith]
      split
      · exact loop_length (fun k => ih k) greedy k
      · exact congrArg Nat.succ (oneOrMore_length (fun k => ih k) greedy (k + 1))
    | succ n =>
      simp only [code, size, costWith, List.length_append, copies_length (fun k => ih k),
        oneOrMore_length (fun k => ih k)]
  | between lo hi greedy e ih =>
    simp only [code, size, costWith, List.length_append, copies_length (fun k => ih k),
      atMost_length (fun k => ih k)]

/-- The whole program of an expression. -/
def program (e : Expression) : Array Instr := (code e 0 ++ [Instr.accept]).toArray

theorem size_program (e : Expression) : e.program.size = e.size + 1 := by
  rw [program, List.size_toArray, List.length_append, code_length, List.length_singleton]

theorem costWith_mono {cost cost' : CharSet → Nat} (h : ∀ s, cost s ≤ cost' s) (e : Expression) :
    costWith cost e ≤ costWith cost' e := by
  induction e with
  | empty | literal _ | look _ => exact Nat.le_refl _
  | set s => exact h s
  | group _ e ih => exact ih
  | seq a b iha ihb => exact Nat.add_le_add iha ihb
  | alt a b iha ihb => exact Nat.add_le_add_right (Nat.add_le_add iha ihb) 2
  | atLeast n _ e ih =>
    cases n with
    | zero => exact Nat.add_le_add_right ih 2
    | succ n => exact Nat.add_le_add (Nat.mul_le_mul_left n ih) (Nat.add_le_add_right ih 1)
  | between lo hi _ e ih =>
    exact Nat.add_le_add (Nat.mul_le_mul_left lo ih)
      (Nat.mul_le_mul_left (hi - lo) (Nat.add_le_add_right ih 1))

theorem size_le_weight (e : Expression) : e.size ≤ e.weight :=
  costWith_mono (fun s => Nat.le_max_left 1 s.rangeCount) e

end Expression
end TextGrammar
