/-
Matching by threads.

All ways through a program advance together, one character at a time.  The threads
of a place are the instructions reached there, best first and each at most once,
so the work per character is bounded by the size of the program.  When a thread
accepts, the worse ones are dropped and the better ones go on; the last place
where a thread accepts ends the preferred match.
-/
import TextGrammar.Pattern.Program

namespace TextGrammar
namespace Matching

/-- The instructions that have been reached at a place, as marks and as a list of
those that wait for a character or accept, worst first. -/
structure Reached where
  marks : Array Bool
  threads : List Nat

/-- Follow forks, jumps and checks from the numbers in `pending`, depth first, until
each way waits for a character or accepts.  Every number is expanded once and adds
at most two, so twice the size of the program and the length of `pending` bound
the steps. -/
def follow (program : Array Instr) (sight : Sight) : Nat → List Nat → Reached → Reached
  | 0, _, r => r
  | _, [], r => r
  | n + 1, pc :: pending, r =>
    if r.marks.getD pc true then follow program sight n pending r
    else
      let marked := { r with marks := r.marks.setIfInBounds pc true }
      match program[pc]? with
      | some (.fork a b) => follow program sight n (a :: b :: pending) marked
      | some (.jump a) => follow program sight n (a :: pending) marked
      | some (.check l) =>
        if l.holds sight then follow program sight n ((pc + 1) :: pending) marked
        else follow program sight n pending marked
      | _ => follow program sight n pending { marked with threads := pc :: marked.threads }

def follow1 (program : Array Instr) (sight : Sight) (pc : Nat) (r : Reached) : Reached :=
  follow program sight (2 * program.size + 1) [pc] r

def unreached (program : Array Instr) : Reached :=
  { marks := Array.replicate program.size false, threads := [] }

/-- The threads behind the character `c`, best first. -/
def step (program : Array Instr) (c : Char) (sight : Sight) (threads : List Nat) : List Nat :=
  (threads.foldl (fun r pc =>
    match program[pc]? with
    | some (.consume s) => if s.contains c then follow1 program sight (pc + 1) r else r
    | _ => r) (unreached program)).threads.reverse

/-- The threads at the place where matching begins. -/
def initial (program : Array Instr) (sight : Sight) : List Nat :=
  (follow1 program sight 0 (unreached program)).threads.reverse

def accepts (program : Array Instr) (pc : Nat) : Bool := program[pc]?.any Instr.isAccept

/-- Go through the text with the threads of the present place.  `count` characters
are behind, and `best` is the length of the best match found there. -/
def scan (program : Array Instr) : Text → List Nat → Nat → Option Nat → Option Nat
  | t, threads, count, best =>
    let better := threads.takeWhile fun pc => !accepts program pc
    let best := if better.length < threads.length then some count else best
    match t with
    | [] => best
    | c :: rest =>
      match better with
      | [] => best
      | _ => scan program rest (step program c ⟨some c, rest.head?⟩ better) (count + 1) best

/-- The number of characters in the preferred match at the beginning of `t`, where
`before` is the character in front of it. -/
def matchLength? (program : Array Instr) (before : Option Char) (t : Text) : Option Nat :=
  scan program t (initial program ⟨before, t.head?⟩) 0 none

end Matching
end TextGrammar
