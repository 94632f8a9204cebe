/-
Where the pointer of an excerpt stands.

The caret is drawn behind as many blanks as the entry above it has bytes in front of the location.
A blank is a character, so the caret is below the location if these bytes are characters too.
`column?` counts the characters in front of the location in the entry that shows its line, and
`caretColumn?` those in front of the caret in the entry below.
-/
import TextGrammar.Proofs.Excerpts
import TextGrammar.Proofs.Taking

namespace TextGrammar

namespace Location

open Text

variable {m : Machine} {l : Location} {place : Coordinate} {front rest : Text}

/-- What is in front of a location on its line. -/
def beforeInLine? (l : Location) : Option Text := l.before?.bind fun t => t.lines.getLast?

/-- The number of characters in front of the location in the entry that shows its line. -/
def column? (l : Location) : Option Nat :=
  l.coordinate?.bind fun place => l.beforeInLine?.map fun front =>
    (margin place.line true).length + front.length

/-- The number of characters in front of the caret in the entry below that one. -/
def caretColumn? (m : Machine) (l : Location) : Option Nat :=
  l.coordinate?.bind fun place => (l.excerptIn? m).bind fun entries =>
    entries[place.line - firstShown place + 1]?.map fun entry =>
      (entry.toList.takeWhile (· ≠ '^')).length

/-! ## The line -/

theorem exists_beforeInLine (h : l.text.IsBoundary l.offset) :
    ∃ place front rest, l.coordinate? = some place ∧ l.beforeInLine? = some front ∧
      l.text.line place.line = front ++ rest ∧ front.size = place.byteOffset := by
  obtain ⟨a, b, htext, hbefore, -, hoff, -⟩ := Readable.exists_before (.inl h)
  obtain ⟨above, front, hcount, hstart, hsize, hlines⟩ := exists_lines_append a
  obtain ⟨rest, below, hb⟩ := exists_lines_eq_cons b
  have hoff' := hoff h.le_size
  have hfront := hlines [] [] [] rfl
  rw [List.append_nil, List.append_nil] at hfront
  refine ⟨_, front, rest, by rw [coordinate?, hbefore, Option.map_some], ?_, ?_, ?_⟩
  · rw [beforeInLine?, hbefore, Option.bind_some, hfront, List.getLast?_concat]
  · rw [Text.line, Nat.add_sub_cancel, ← hcount, htext, hlines b rest below hb,
      List.getElem?_append_right (Nat.le_refl _), Nat.sub_self]
    rfl
  · dsimp only
    omega

/-! ## The caret -/

theorem length_takeWhile_pointer (n : Nat) :
    ((pointer n).toList.takeWhile (· ≠ '^')).length = n := by
  rw [pointer, String.toList_append, String.toList_ofList, List.takeWhile_append_of_pos]
  · show (List.replicate n ' ' ++ []).length = n
    rw [List.append_nil, List.length_replicate]
  · intro c hc
    rw [List.eq_of_mem_replicate hc]
    rfl

/-- The reported line and the pointer in the window. -/
theorem getElem?_window (t : Text) (place : Coordinate) :
    (window t place)[place.line - firstShown place]? =
        some (margin place.line true ++ String.ofList (t.line place.line)) ∧
      (window t place)[place.line - firstShown place + 1]? =
        some (pointer (pointerOffset place)) := by
  have hlength : (unmarked t (firstShown place) (place.line - firstShown place)).length =
      place.line - firstShown place := by
    rw [unmarked, List.length_map, List.length_range']
  rw [window, windowWith, List.append_assoc]
  constructor
  · rw [List.getElem?_append_right (Nat.le_of_eq hlength), hlength, Nat.sub_self]
    rfl
  · rw [List.getElem?_append_right (by omega), hlength, Nat.add_sub_cancel_left]
    rfl

theorem pointerOffset_lt_of_hasRoom {t : Text} (h : m.HasRoom (window t place)) :
    pointerOffset place < wordCount := by
  have hpointer : pointerOffset place + caret.utf8ByteSize ≤ m.room := le_room_of_hasRoom h
  have hle := m.room_le
  have hword : longestText < wordCount := by decide
  omega

theorem Shows.excerpt (h : l.Shows m place) (hroom : m.HasRoom (window l.text place)) :
    l.excerptIn? m = some (window l.text place) :=
  (h.draws (pointerOffset_lt_of_hasRoom hroom)).excerpt hroom

theorem Shows.caretColumn?_eq (h : l.Shows m place) (hplace : l.coordinate? = some place)
    (hroom : m.HasRoom (window l.text place)) : l.caretColumn? m = some (pointerOffset place) := by
  rw [Location.caretColumn?, hplace, Option.bind_some, h.excerpt hroom, Option.bind_some,
    (getElem?_window l.text place).2, Option.map_some, length_takeWhile_pointer]

/-- Without room there is no caret, unless the blanks are counted wrongly. -/
theorem Shows.caretColumn?_eq_none (h : l.Shows m place) (hplace : l.coordinate? = some place)
    (hcount : m.checked = true ∨ pointerOffset place < wordCount)
    (hnot : ¬ m.HasRoom (window l.text place)) : l.caretColumn? m = none := by
  have hnone : l.excerptIn? m = none := by
    by_cases hword : pointerOffset place < wordCount
    · exact ((h.draws hword).noRoom hnot).1
    · exact (h.stops (Nat.le_of_not_lt hword) (hcount.resolve_right hword)).1
  rw [Location.caretColumn?, hplace, Option.bind_some, hnone, Option.bind_none]

/-- The entry with the line of a location shows a margin and then what is in front of the location
on its line.  In the entry below, the caret has as many characters in front of it as these have
bytes, if there is room for the excerpt.  So the caret is below the location just if all characters
in front of this on its line are of one byte.  Any other character moves the caret too far to the
right.  On a machine that does not check its arithmetic this takes a text that is not longer than
texts can be. -/
theorem caret_below_iff_one_byte (m : Machine) (h : l.text.IsBoundary l.offset)
    (hm : m.checked = true ∨ l.text.size ≤ longestText) :
    ∃ place front rest, l.coordinate? = some place ∧ l.beforeInLine? = some front ∧
      l.text.line place.line = front ++ rest ∧ front.size = place.byteOffset ∧
      l.column? = some ((margin place.line true).length + front.length) ∧
      (m.HasRoom (window l.text place) → ∃ entries, l.excerptIn? m = some entries ∧
        entries[place.line - firstShown place]? =
          some (margin place.line true ++ String.ofList (front ++ rest)) ∧
        entries[place.line - firstShown place + 1]? = some (pointer (pointerOffset place)) ∧
        l.caretColumn? m = some ((margin place.line true).length + front.size)) ∧
      (l.caretColumn? m = l.column? ↔
        m.HasRoom (window l.text place) ∧ ∀ c ∈ front, c.utf8Size = 1) := by
  obtain ⟨place, front, rest, hplace, hfront, hline, hsize⟩ := exists_beforeInLine h
  obtain ⟨-, above, line, below, -, -, hstands⟩ := Readable.exists_standsOn (.inl h)
  have hshows := hstands.shows m hplace
  have hcolumn : l.column? = some ((margin place.line true).length + front.length) := by
    rw [column?, hplace, Option.bind_some, hfront, Option.map_some]
  have hcaret (hroom : m.HasRoom (window l.text place)) :
      l.caretColumn? m = some ((margin place.line true).length + front.size) := by
    rw [hshows.caretColumn?_eq hplace hroom, pointerOffset, utf8ByteSize_margin, hsize]
  refine ⟨place, front, rest, hplace, hfront, hline, hsize, hcolumn, fun hroom => ?_, ?_⟩
  · obtain ⟨hmarked, hpointer⟩ := getElem?_window l.text place
    rw [hline] at hmarked
    exact ⟨_, hshows.excerpt hroom, hmarked, hpointer, hcaret hroom⟩
  · rw [hcolumn, ← size_eq_length_iff]
    by_cases hroom : m.HasRoom (window l.text place)
    · rw [hcaret hroom, Option.some_inj, Nat.add_left_cancel_iff]
      exact ⟨fun heq => ⟨hroom, heq⟩, And.right⟩
    · rw [hshows.caretColumn?_eq_none hplace
        (hm.imp_right (hstands.pointerOffset_lt hplace h.le_size)) hroom]
      constructor
      · intro hnone
        cases hnone
      · intro hboth
        exact absurd hboth.1 hroom

/-- A character of two bytes on another line than the location does no harm. -/
theorem caret_below_second_line :
    (Location.mk ['é', '\n', 'a', 'b'] 4).text.IsBoundary 4 ∧
    (Location.mk ['é', '\n', 'a', 'b'] 4).excerptIn? .strict =
      some ["    1 | é", "  > 2 | ab", "         ^--- here"] ∧
    (Location.mk ['é', '\n', 'a', 'b'] 4).column? = some 9 ∧
    (Location.mk ['é', '\n', 'a', 'b'] 4).caretColumn? .strict =
      (Location.mk ['é', '\n', 'a', 'b'] 4).column? := by
  have h : (Location.mk ['é', '\n', 'a', 'b'] 4).text.IsBoundary 4 :=
    ⟨['é', '\n', 'a'], ['b'], rfl, rfl⟩
  obtain ⟨place, front, rest, hplace, hfront, -, -, hcolumn, -, hbelow⟩ :=
    caret_below_iff_one_byte .strict h (.inl rfl)
  cases hplace
  obtain rfl : ['a'] = front := Option.some.inj hfront
  have hone : ∀ c ∈ ['a'], c.utf8Size = 1 := List.forall_mem_singleton.mpr rfl
  have hroom : Machine.strict.HasRoom (window ['é', '\n', 'a', 'b'] ⟨2, 1⟩) := by decide
  exact ⟨h, rfl, hcolumn, hbelow.mpr ⟨hroom, hone⟩⟩

/-- A character of two bytes in front of the location: the caret has passed the bracket. -/
theorem caret_not_below_bracket :
    (Location.mk ['é', ']'] 2).text.IsBoundary 2 ∧
    (Location.mk ['é', ']'] 2).excerptIn? .strict = some ["  > 1 | é]", "          ^--- here"] ∧
    (Location.mk ['é', ']'] 2).column? = some 9 ∧
    (Location.mk ['é', ']'] 2).caretColumn? .strict = some 10 ∧
    ¬ ∀ l : Location, l.text.IsBoundary l.offset → l.caretColumn? .strict = l.column? := by
  have h : (Location.mk ['é', ']'] 2).text.IsBoundary 2 := ⟨['é'], [']'], rfl, rfl⟩
  have hcaret : (Location.mk ['é', ']'] 2).caretColumn? .strict = some 10 := rfl
  refine ⟨h, rfl, rfl, hcaret, fun hall => ?_⟩
  cases hcaret.symm.trans (hall _ h)

end Location
end TextGrammar
