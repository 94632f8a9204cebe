/-
Texts and byte offsets.

A text is the list of its characters.  Every offset in this library counts the
bytes of the UTF-8 form of a text, so an offset can fall inside a character.
The functions here that cut a text answer `none` there, and nothing else makes
them fail but an offset past the end.
-/
namespace TextGrammar

abbrev Text := List Char

namespace Text

/-- The length of the UTF-8 form in bytes. -/
def size : Text → Nat
  | [] => 0
  | c :: t => c.utf8Size + size t

/-- What is left after the first `n` bytes. -/
def dropBytes? : Text → Nat → Option Text
  | t, 0 => some t
  | [], _ + 1 => none
  | c :: t, n + 1 => if c.utf8Size ≤ n + 1 then dropBytes? t (n + 1 - c.utf8Size) else none

/-- The first `n` bytes. -/
def takeBytes? : Text → Nat → Option Text
  | _, 0 => some []
  | [], _ + 1 => none
  | c :: t, n + 1 =>
    if c.utf8Size ≤ n + 1 then (takeBytes? t (n + 1 - c.utf8Size)).map (c :: ·) else none

/-- The text between two offsets, which have to be in order and between
characters. -/
def slice? (t : Text) (start stop : Nat) : Option Text :=
  if start ≤ stop then (t.dropBytes? start).bind (takeBytes? · (stop - start)) else none

/-- The character in front of an offset, or `before` at offset zero, and the text
from there on. -/
def splitAt? (before : Option Char) : Text → Nat → Option (Option Char × Text)
  | t, 0 => some (before, t)
  | [], _ + 1 => none
  | c :: t, n + 1 =>
    if c.utf8Size ≤ n + 1 then splitAt? (some c) t (n + 1 - c.utf8Size) else none

/-- The least offset between two characters that is not below `n`, and the end of
the text if there is none. -/
def ceil : Text → Nat → Nat
  | [], _ => 0
  | _ :: _, 0 => 0
  | c :: t, n + 1 => c.utf8Size + ceil t (n + 1 - c.utf8Size)

/-- Whether an offset is not inside a character, nor past the end. -/
def isCut (t : Text) (n : Nat) : Bool := (t.dropBytes? n).isSome

/-- Count up from `n` to the first offset that is not inside a character.  There is
no result if it is not among the first `rounds` offsets. -/
def cutFrom? (t : Text) : Nat → Nat → Option Nat
  | 0, _ => none
  | rounds + 1, n => if t.isCut n then some n else cutFrom? t rounds (n + 1)

/-- The parts between line feeds.  There is one more of them than line feeds, so
the list is never empty. -/
def lines : Text → List Text
  | [] => [[]]
  | c :: t =>
    if c = '\n' then [] :: lines t
    else match lines t with
      | [] => [[c]]
      | l :: ls => (c :: l) :: ls

/-- The offset where the last line begins. -/
def lastLineStart (t : Text) : Nat :=
  size t - size (t.reverse.takeWhile (· ≠ '\n'))

theorem size_append (s t : Text) : size (s ++ t) = size s + size t := by
  induction s with
  | nil => simp [size]
  | cons c s ih =>
    simp only [List.cons_append, size, ih]
    omega

theorem dropBytes?_zero (t : Text) : dropBytes? t 0 = some t := by
  cases t <;> rfl

theorem takeBytes?_zero (t : Text) : takeBytes? t 0 = some [] := by
  cases t <;> rfl

/-- A prefix can be dropped by its size. -/
theorem dropBytes?_append (s t : Text) : dropBytes? (s ++ t) (size s) = some t := by
  induction s with
  | nil => exact dropBytes?_zero t
  | cons c s ih =>
    have hpos := c.utf8Size_pos
    obtain ⟨n, hn⟩ : ∃ n, c.utf8Size + size s = n + 1 := ⟨c.utf8Size + size s - 1, by omega⟩
    have hle : c.utf8Size ≤ n + 1 := by omega
    have hsub : n + 1 - c.utf8Size = size s := by omega
    simp only [List.cons_append, size, hn, dropBytes?, hle, if_true, hsub, ih]

theorem takeBytes?_append (s t : Text) : takeBytes? (s ++ t) (size s) = some s := by
  induction s with
  | nil => exact takeBytes?_zero t
  | cons c s ih =>
    have hpos := c.utf8Size_pos
    obtain ⟨n, hn⟩ : ∃ n, c.utf8Size + size s = n + 1 := ⟨c.utf8Size + size s - 1, by omega⟩
    have hle : c.utf8Size ≤ n + 1 := by omega
    have hsub : n + 1 - c.utf8Size = size s := by omega
    simp only [List.cons_append, size, hn, takeBytes?, hle, if_true, hsub, ih, Option.map_some]

end Text
end TextGrammar
