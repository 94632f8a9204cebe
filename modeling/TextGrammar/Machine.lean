/-
What the machine leaves open.

Numbers are words of 64 bits.  Where a result is not a word, a machine that checks
its arithmetic stops, and any other goes on with the remainder.  A string has
fewer than two to the sixty-third bytes.  How many it can have in the end depends
on the memory and on the way a string grows, so that is left to the machine.
-/
namespace TextGrammar

/-- How many words there are, two to the sixty-fourth. -/
def wordCount : Nat := 18446744073709551616

/-- The greatest number of bytes in a string, one less than two to the sixty-third. -/
def longestText : Nat := 9223372036854775807

structure Machine where
  /-- Whether it stops at a result that is not a word. -/
  checked : Bool
  /-- The greatest number of bytes in a string that it makes. -/
  room : Nat
  room_le : room ≤ longestText

namespace Machine

variable {m : Machine} {n : Nat}

/-- Checked arithmetic, and all the room there can be. -/
def strict : Machine := ⟨true, longestText, Nat.le_refl _⟩

/-- The result of an operation whose exact result is `z`. -/
def word? (m : Machine) (z : Int) : Option Nat :=
  if 0 ≤ z ∧ z < wordCount then some z.toNat
  else if m.checked then none
  else some (z % wordCount).toNat

/-- There is room for each of the strings. -/
def HasRoom (m : Machine) (ss : List String) : Prop := ∀ s ∈ ss, s.utf8ByteSize ≤ m.room

instance (m : Machine) (ss : List String) : Decidable (m.HasRoom ss) :=
  inferInstanceAs (Decidable (∀ s ∈ ss, s.utf8ByteSize ≤ m.room))

theorem word?_of_lt (m : Machine) (h : n < wordCount) : m.word? n = some n := by
  have hword : (0 : Int) ≤ n ∧ (n : Int) < wordCount := by omega
  rw [word?, if_pos hword, Int.toNat_natCast]

theorem word?_of_checked (hm : m.checked = true) (h : wordCount ≤ n) : m.word? n = none := by
  have hword : ¬ ((0 : Int) ≤ n ∧ (n : Int) < wordCount) := by omega
  rw [word?, if_neg hword, if_pos hm]

theorem word?_of_unchecked (hm : m.checked = false) (h : wordCount ≤ n) :
    m.word? n = some (n % wordCount) := by
  have hword : ¬ ((0 : Int) ≤ n ∧ (n : Int) < wordCount) := by omega
  rw [word?, if_neg hword, hm, if_neg Bool.false_ne_true, ← Int.natCast_emod, Int.toNat_natCast]

end Machine
end TextGrammar
