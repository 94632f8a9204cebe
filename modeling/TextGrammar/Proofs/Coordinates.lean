/-
Coordinates.

A location between characters, or at or behind the end of its text, stands on one of the lines of
the text.  `StandsOn` names that line together with those above and below it; the coordinate is the
number of lines above, and what is left of the offset when their bytes are taken away.  So the
offset can be computed from the coordinate, and coordinates are in the order of reading.
-/
import TextGrammar.Proofs.Lines

namespace TextGrammar

/-- The order of reading: by line, and within a line by byte. -/
def Coordinate.Before (p q : Coordinate) : Prop :=
  p.line < q.line ∨ p.line = q.line ∧ p.byteOffset < q.byteOffset

theorem Coordinate.not_before_self (p : Coordinate) : ¬ p.Before p := by
  rw [Coordinate.Before]
  omega

namespace Location

open Text

variable {l l' : Location} {above above' below below' : List Text} {line line' : Text}

/-- A location between two characters, at the end of the text, or past it. -/
def Readable (l : Location) : Prop := l.text.IsBoundary l.offset ∨ l.text.size ≤ l.offset

/-- What is in front of a location, and what is behind it. -/
theorem Readable.exists_before (h : l.Readable) :
    ∃ a b, l.text = a ++ b ∧ l.before? = some a ∧ a.size ≤ l.offset ∧
      (l.offset ≤ l.text.size → l.offset = a.size) ∧ (l.text.size ≤ l.offset → b = []) := by
  obtain ⟨a, b, htext, hoff⟩ | hpast := h
  · have hsize : l.text.size = a.size + b.size := by rw [htext, size_append]
    refine ⟨a, b, htext, ?_, by omega, fun _ => hoff, fun hle => eq_nil_of_size (by omega)⟩
    have hmin : min l.offset l.text.size = a.size := by omega
    rw [before?, hmin, htext, takeBytes?_append]
  · refine ⟨l.text, [], (List.append_nil _).symm, ?_, hpast, fun hle => by omega, fun _ => rfl⟩
    rw [before?, Nat.min_eq_right hpast]
    exact takeBytes?_eq_some_iff.mpr ⟨[], (List.append_nil _).symm, rfl⟩

/-- There is no coordinate inside a character. -/
theorem coordinate?_eq_none_iff :
    l.coordinate? = none ↔ l.offset < l.text.size ∧ ¬ l.text.IsBoundary l.offset := by
  rw [coordinate?, Option.map_eq_none_iff]
  constructor
  · intro hnone
    have hnot : ¬ l.Readable := by
      intro h
      obtain ⟨a, b, -, hsome, -⟩ := h.exists_before
      cases hnone.symm.trans hsome
    rw [Readable, not_or] at hnot
    exact ⟨Nat.lt_of_not_le hnot.2, hnot.1⟩
  · rintro ⟨hlt, hnot⟩
    have hmin : min l.offset l.text.size = l.offset := by omega
    cases hsome : l.before? with
    | none => rfl
    | some a =>
      rw [before?, hmin] at hsome
      obtain ⟨b, htext, hoff⟩ := takeBytes?_eq_some_iff.mp hsome
      exact absurd ⟨a, b, htext, hoff⟩ hnot

theorem readable_of_coordinate? {place : Coordinate} (h : l.coordinate? = some place) :
    l.Readable := by
  by_cases hb : l.text.IsBoundary l.offset
  · exact .inl hb
  · refine .inr (Nat.le_of_not_lt fun hlt => ?_)
    cases h.symm.trans (coordinate?_eq_none_iff.mpr ⟨hlt, hb⟩)

/-- The line of a location, with those above it and those below it. -/
structure StandsOn (l : Location) (above : List Text) (line : Text) (below : List Text) : Prop where
  lines_eq : l.text.lines = above ++ line :: below
  coordinate : l.coordinate? = some ⟨above.length + 1, l.offset - linesSize above⟩
  linesSize_le : linesSize above ≤ l.offset
  le_line : l.offset ≤ l.text.size → l.offset ≤ linesSize above + line.size
  below_eq_nil : l.text.size ≤ l.offset → below = []

/-- The line feed that the coordinate is computed from is in front of the location. -/
theorem Readable.exists_standsOn (h : l.Readable) :
    ∃ a above line below, l.before? = some a ∧ a.lastLineStart = linesSize above ∧
      l.StandsOn above line below := by
  obtain ⟨a, b, htext, hbefore, hle, hinside, hpast⟩ := h.exists_before
  obtain ⟨above, s, hcount, hstart, hsize, hlines⟩ := exists_lines_append a
  obtain ⟨line, below, hb⟩ := exists_lines_eq_cons b
  refine ⟨a, above, s ++ line, below, hbefore, hstart, ?_, ?_, by omega, ?_, ?_⟩
  · rw [htext, hlines b line below hb]
  · rw [coordinate?, hbefore, Option.map_some, hcount, hstart]
  · intro hoff
    have heq := hinside hoff
    rw [size_append]
    omega
  · intro hoff
    rw [hpast hoff] at hb
    exact (List.cons.inj hb).2.symm

theorem StandsOn.getElem? (h : l.StandsOn above line below) :
    l.text.lines[above.length]? = some line := by
  rw [h.lines_eq, List.getElem?_append_right (Nat.le_refl _), Nat.sub_self]
  rfl

theorem StandsOn.take (h : l.StandsOn above line below) :
    l.text.lines.take above.length = above := by
  rw [h.lines_eq, List.take_left]

theorem StandsOn.length_lines (h : l.StandsOn above line below) :
    l.text.lines.length = above.length + 1 + below.length := by
  rw [h.lines_eq, List.length_append, List.length_cons]
  omega

/-- A location on a line further up has a smaller offset: there is a line feed between the two. -/
theorem StandsOn.line_bounds {place : Coordinate} (h : l.StandsOn above line below)
    (hplace : l.coordinate? = some place) :
    1 ≤ place.line ∧ place.line ≤ l.text.lines.length := by
  obtain rfl := Option.some.inj (h.coordinate.symm.trans hplace)
  rw [h.length_lines]
  exact ⟨Nat.le_add_left 1 _, Nat.le_add_right _ _⟩

theorem StandsOn.lt_of_length_lt (h : l.StandsOn above line below)
    (h' : l'.StandsOn above' line' below') (htext : l'.text = l.text)
    (hlt : above.length < above'.length) : l.offset < l'.offset := by
  have hlines : above ++ line :: below = above' ++ line' :: below' := by
    rw [← h.lines_eq, ← h'.lines_eq, htext]
  obtain ⟨mid, rfl, hbelow⟩ | ⟨mid, rfl, -⟩ := List.append_eq_append_iff.mp hlines
  · cases mid with
    | nil =>
      rw [List.append_nil] at hlt
      exact absurd hlt (Nat.lt_irrefl _)
    | cons line'' mid =>
      obtain ⟨rfl, hbelow⟩ := List.cons.inj hbelow
      have hsize := h'.linesSize_le
      rw [linesSize_append, linesSize] at hsize
      -- The first location is not past the end, since its line is not the last one.
      obtain hin | hpast := Nat.lt_or_ge l.offset l.text.size
      · have hline := h.le_line (by omega)
        omega
      · rw [h.below_eq_nil hpast] at hbelow
        simp at hbelow
  · rw [List.length_append] at hlt
    omega

/-- Offsets are in the order of their coordinates. -/
theorem StandsOn.lt_iff_before (h : l.StandsOn above line below)
    (h' : l'.StandsOn above' line' below') (htext : l'.text = l.text) :
    l.offset < l'.offset ↔ Coordinate.Before ⟨above.length + 1, l.offset - linesSize above⟩
      ⟨above'.length + 1, l'.offset - linesSize above'⟩ := by
  show _ ↔ _ < _ ∨ _ = _ ∧ _ < _
  dsimp only
  have hle := h.linesSize_le
  have hle' := h'.linesSize_le
  obtain hlt | heq | hgt := Nat.lt_trichotomy above.length above'.length
  · have hoff := h.lt_of_length_lt h' htext hlt
    omega
  · have habove : above = above' := by rw [← h.take, ← h'.take, htext, heq]
    subst habove
    omega
  · have hoff := h'.lt_of_length_lt h htext.symm hgt
    omega

/-- Coordinates of the offsets of a text.  There is none just for offsets inside a character.  All
others have a line number among those of the lines, and a byte offset in that line: the bytes of
the lines above with their line feeds, and the byte offset, make up the offset.  No more bytes are
taken away from the offset than it has.  Up to the end of the text the byte offset does not lead
past the line, and from the end on the line is the last one.  Different offsets have different
coordinates, which are in the same order. -/
theorem coordinates_order_offsets (t : Text) :
    t.lines = t.splitOn '\n' ∧
    (∀ n, (Location.mk t n).coordinate? = none ↔ n < t.size ∧ ¬ t.IsBoundary n) ∧
    (∀ n, t.IsBoundary n ∨ t.size ≤ n →
      ∃ a place, (Location.mk t n).before? = some a ∧ a.lastLineStart ≤ n ∧
        (Location.mk t n).coordinate? = some place ∧
        1 ≤ place.line ∧ place.line ≤ t.lines.length ∧
        n = linesSize (t.lines.take (place.line - 1)) + place.byteOffset ∧
        (n ≤ t.size → ∃ line, t.lines[place.line - 1]? = some line ∧
          place.byteOffset ≤ line.size) ∧
        (t.size ≤ n → place.line = t.lines.length)) ∧
    ∀ n n' place place', (Location.mk t n).coordinate? = some place →
      (Location.mk t n').coordinate? = some place' →
      (place = place' → n = n') ∧ (n < n' ↔ place.Before place') := by
  refine ⟨lines_eq_splitOn t, fun n => coordinate?_eq_none_iff, ?_, ?_⟩
  · intro n hn
    obtain ⟨a, above, line, below, hbefore, hstart, h⟩ :=
      Readable.exists_standsOn (l := ⟨t, n⟩) hn
    have hle : linesSize above ≤ n := h.linesSize_le
    have hlength : t.lines.length = above.length + 1 + below.length := h.length_lines
    have htake : t.lines.take above.length = above := h.take
    have hlast (hpast : t.size ≤ n) : below = [] := h.below_eq_nil hpast
    refine ⟨a, _, hbefore, by omega, h.coordinate, ?_⟩
    dsimp only
    rw [Nat.add_sub_cancel, htake, hlength]
    refine ⟨by omega, by omega, by omega, fun hin => ?_, fun hpast => ?_⟩
    · have hline : n ≤ linesSize above + line.size := h.le_line hin
      exact ⟨line, h.getElem?, by omega⟩
    · rw [hlast hpast]
      rfl
  · intro n n' place place' hplace hplace'
    obtain ⟨-, above, line, below, -, -, h⟩ := (readable_of_coordinate? hplace).exists_standsOn
    obtain ⟨-, above', line', below', -, -, h'⟩ := (readable_of_coordinate? hplace').exists_standsOn
    have hiff := h.lt_iff_before h' rfl
    have hiff' := h'.lt_iff_before h rfl
    rw [← Option.some.inj (hplace.symm.trans h.coordinate),
      ← Option.some.inj (hplace'.symm.trans h'.coordinate)] at hiff hiff'
    refine ⟨fun heq => ?_, hiff⟩
    subst heq
    have hnlt : ¬ n < n' := fun hlt => place.not_before_self (hiff.mp hlt)
    have hngt : ¬ n' < n := fun hgt => place.not_before_self (hiff'.mp hgt)
    omega

/-- A blank line between two others: the offsets of its two line feeds, the first of them behind a
character of two bytes, and an offset past the end. -/
theorem blank_line_coordinates :
    (Location.mk ['é', '\n', '\n', 'z'] 1).coordinate? = none ∧
    (∃ a place, (Location.mk ['é', '\n', '\n', 'z'] 9).before? = some a ∧ a.lastLineStart ≤ 9 ∧
      (Location.mk ['é', '\n', '\n', 'z'] 9).coordinate? = some place ∧ place.line = 3) ∧
    (2 < 3 ↔ Coordinate.Before ⟨1, 2⟩ ⟨2, 0⟩) := by
  have hinside : ¬ Text.IsBoundary ['é', '\n', '\n', 'z'] 1 := by
    intro h
    obtain ⟨r, hr⟩ := h.exists_dropBytes?
    cases hr
  obtain ⟨-, hnone, hplace, horder⟩ := coordinates_order_offsets ['é', '\n', '\n', 'z']
  have hpast : Text.size ['é', '\n', '\n', 'z'] ≤ 9 := by decide
  obtain ⟨a, place, hbefore, hstart, hcoord, -, -, -, -, hlast⟩ := hplace 9 (.inr hpast)
  exact ⟨(hnone 1).mpr ⟨by decide, hinside⟩, ⟨a, place, hbefore, hstart, hcoord, hlast hpast⟩,
    (horder 2 3 ⟨1, 2⟩ ⟨2, 0⟩ rfl rfl).2⟩

end Location
end TextGrammar
