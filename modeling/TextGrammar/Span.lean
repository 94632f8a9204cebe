/-
The range of a text that a parser has consumed.
-/
import TextGrammar.Machine
import TextGrammar.Text

namespace TextGrammar

structure Span where
  start : Nat
  stop : Nat
deriving DecidableEq, Repr

namespace Span

/-- The number of bytes in the range.  It is not a word if the ends are not in order. -/
def lengthIn? (m : Machine) (s : Span) : Option Nat := m.word? (s.stop - s.start)

/-- The length, by arithmetic that is not checked. -/
def length (s : Span) : Nat := (((s.stop : Int) - s.start) % wordCount).toNat

def isEmpty (s : Span) : Bool := s.start == s.stop

/-- The part of `t` within the range, if its ends are in order, within `t` and
between characters. -/
def slice? (s : Span) (t : Text) : Option Text := t.slice? s.start s.stop

/-- A range with its ends in order has the same length on every machine. -/
theorem lengthIn?_of_le (m : Machine) {s : Span} (hle : s.start ≤ s.stop)
    (hword : s.stop < wordCount) : s.lengthIn? m = some s.length ∧ s.length = s.stop - s.start := by
  have hsub : (s.stop : Int) - s.start = (s.stop - s.start : Nat) := by omega
  have hlt : s.stop - s.start < wordCount := by omega
  have hlength : s.length = s.stop - s.start := by
    rw [length, hsub, ← Int.natCast_emod, Int.toNat_natCast, Nat.mod_eq_of_lt hlt]
  rw [lengthIn?, hsub, m.word?_of_lt hlt, hlength]
  exact ⟨rfl, rfl⟩

end Span
end TextGrammar
