/-
Excerpts and reports.

`Location.window` lists what an excerpt has to show, from the numbers of lines alone: the lines
from two above to two below the reported one as far as there are any, and the pointer.  An excerpt
is made by going through all lines of the text instead, and comes to the same, unless the machine
has no room for one of the entries.

The number of blanks in front of the pointer is a word.  If what it should be is too great for one,
a machine that checks its arithmetic stops, and any other draws the window with the remainder.  That
takes an offset far behind the end of any text, since all places in a text are within two to the
sixty-third bytes.
-/
import Mathlib.Data.Nat.Digits.Defs
import TextGrammar.Proofs.Containment
import TextGrammar.Proofs.Coordinates
import TextGrammar.Proofs.Log

namespace TextGrammar

namespace Text

/-- Line `n` of a text, counted from one. -/
def line (t : Text) (n : Nat) : Text := t.lines[n - 1]?.getD []

/-! ## Bytes of strings -/

theorem size_eq_length_iff {t : Text} : t.size = t.length ↔ ∀ c ∈ t, c.utf8Size = 1 := by
  induction t with
  | nil => simp [size]
  | cons c t ih =>
    have hpos := c.utf8Size_pos
    have hle := length_le_size t
    rw [List.forall_mem_cons, ← ih, size, List.length_cons]
    omega

theorem utf8ByteSize_ofList (t : Text) : (String.ofList t).utf8ByteSize = t.size := by
  induction t with
  | nil => rfl
  | cons c t ih =>
    rw [String.ofList_cons, String.utf8ByteSize_append, String.utf8ByteSize_singleton, ih, size]

theorem utf8ByteSize_repr (n : Nat) : n.repr.utf8ByteSize = n.repr.length := by
  rw [← String.ofList_toList (s := n.repr), utf8ByteSize_ofList, String.length_ofList,
    size_eq_length_iff, Nat.toList_repr]
  intro c hc
  have hdigit := Nat.isDigit_of_mem_toDigits (by decide) (Nat.le_refl 10) hc
  have hhi : c.toNat ≤ 57 := (Char.isDigit_iff_toNat.mp hdigit).2
  exact Char.utf8Size_eq_one_iff.mpr (UInt32.le_iff_toNat_le.mpr (Nat.le_trans hhi (by decide)))

end Text

namespace Location

open Text

variable {l : Location} {place : Coordinate} {t : Text} {m : Machine} {n blanks : Nat}
  {above below : List Text} {line : Text}

/-- The entries of `count` lines from line `n` on, none of them the reported one. -/
def unmarked (t : Text) (n count : Nat) : List String :=
  (List.range' n count).map fun k => s!"    {k} | " ++ String.ofList (t.line k)

/-- The reported line and the pointer below it. -/
def marked (t : Text) (place : Coordinate) (blanks : Nat) : List String :=
  [s!"  > {place.line} | " ++ String.ofList (t.line place.line),
    String.ofList (List.replicate blanks ' ') ++ "^--- here"]

/-- The numbers of the first and the last line that an excerpt shows. -/
def firstShown (place : Coordinate) : Nat := max 1 (place.line - 2)

def lastShown (t : Text) (place : Coordinate) : Nat := min t.lines.length (place.line + 2)

/-- The excerpt with a given number of blanks in front of the pointer. -/
def windowWith (t : Text) (place : Coordinate) (blanks : Nat) : List String :=
  unmarked t (firstShown place) (place.line - firstShown place) ++ marked t place blanks ++
    unmarked t (place.line + 1) (lastShown t place - place.line)

/-- The excerpt with as many blanks as there are bytes in front of the reported place, those of
the margin among them. -/
def window (t : Text) (place : Coordinate) : List String :=
  windowWith t place (s!"  > {place.line} | ".utf8ByteSize + place.byteOffset)

/-! ## One line -/

theorem entries_of_far (content : Text) (h : n < place.line - 2 ∨ place.line + 2 < n) :
    entries place blanks n content = [] := by
  rw [entries, if_pos h]

theorem entries_of_near (content : Text) (hlo : place.line - 2 ≤ n) (hhi : n ≤ place.line + 2)
    (hne : n ≠ place.line) :
    entries place blanks n content = [s!"    {n} | " ++ String.ofList content] := by
  have hfar : ¬ (n < place.line - 2 ∨ place.line + 2 < n) := by omega
  simp [entries, hfar, hne, margin]

theorem entries_of_line (place : Coordinate) (blanks : Nat) (t : Text) :
    entries place blanks place.line (t.line place.line) = marked t place blanks := by
  simp [entries, margin, marked, pointer, caret]

/-! ## All lines -/

theorem zipIdx_lines (t : Text) :
    t.lines.zipIdx 1 = (List.range' 1 t.lines.length).map fun n => (t.line n, n) := by
  refine List.ext_getElem (by simp) fun i hi hi' => ?_
  rw [List.length_zipIdx] at hi
  rw [List.getElem_zipIdx, List.getElem_map, List.getElem_range', line]
  simp [hi, Nat.add_comm]

theorem flatMap_entries_of_far {first count : Nat}
    (h : count = 0 ∨ first + count ≤ place.line - 2 ∨ place.line + 2 < first) :
    (List.range' first count).flatMap (fun n => entries place blanks n (t.line n)) = [] := by
  refine List.flatMap_eq_nil_iff.mpr fun n hn => entries_of_far _ ?_
  rw [List.mem_range'_1] at hn
  omega

theorem flatMap_entries_of_near {first count : Nat} (hlo : place.line - 2 ≤ first)
    (hhi : first + count ≤ place.line + 3) (hne : first + count ≤ place.line ∨ place.line < first) :
    (List.range' first count).flatMap (fun n => entries place blanks n (t.line n)) =
      unmarked t first count := by
  induction count generalizing first with
  | zero => rfl
  | succ count ih =>
    rw [List.range'_succ, List.flatMap_cons, ih (by omega) (by omega) (by omega),
      entries_of_near _ hlo (by omega) (by omega), unmarked, unmarked, List.range'_succ,
      List.map_cons, List.singleton_append]

theorem range'_cut {s n m : Nat} (hsn : s ≤ n) (hnm : n ≤ m) :
    List.range' s (m - s) = List.range' s (n - s) ++ List.range' n (m - n) := by
  have h := List.range'_append_1 (s := s) (m := n - s) (n := m - n)
  have hn : s + (n - s) = n := by omega
  have hm : n - s + (m - n) = m - s := by omega
  rw [hn, hm] at h
  exact h.symm

theorem firstShown_bounds (hone : 1 ≤ place.line) :
    1 ≤ firstShown place ∧ place.line - 2 ≤ firstShown place ∧ firstShown place ≤ place.line ∧
      (firstShown place = 1 ∨ firstShown place = place.line - 2) := by
  rw [firstShown]
  omega

theorem lastShown_bounds (hlines : place.line ≤ t.lines.length) :
    place.line ≤ lastShown t place ∧ lastShown t place ≤ t.lines.length ∧
      lastShown t place ≤ place.line + 2 ∧
      (lastShown t place = t.lines.length ∨ lastShown t place = place.line + 2) := by
  rw [lastShown]
  omega

/-- All line numbers, with the reported one and the edges of the excerpt among them. -/
theorem range'_lines (hone : 1 ≤ place.line) (hlines : place.line ≤ t.lines.length) :
    List.range' 1 t.lines.length =
      List.range' 1 (firstShown place - 1) ++
        (List.range' (firstShown place) (place.line - firstShown place) ++
          (place.line :: (List.range' (place.line + 1) (lastShown t place - place.line) ++
            List.range' (lastShown t place + 1) (t.lines.length - lastShown t place)))) := by
  obtain ⟨hfirst, -, hle, -⟩ := firstShown_bounds hone
  obtain ⟨hlast, hle', -, -⟩ := lastShown_bounds hlines
  -- The ranges are cut as ranges that end in front of the number behind the last line.
  have habove := range'_cut (m := t.lines.length + 1) hfirst (by omega)
  have hmid := range'_cut (m := t.lines.length + 1) hle (by omega)
  have hbelow := range'_cut (s := place.line + 1) (n := lastShown t place + 1)
    (m := t.lines.length + 1) (by omega) (by omega)
  rw [Nat.add_sub_add_right, Nat.add_sub_add_right, Nat.add_sub_add_right] at hbelow
  rw [Nat.succ_sub hlines, List.range'_succ, hbelow] at hmid
  rw [Nat.add_sub_cancel, hmid] at habove
  exact habove

/-- Going through all lines and leaving out those that are too far away is the same as showing the
window. -/
theorem flatMap_entries (blanks : Nat) (hone : 1 ≤ place.line)
    (hlines : place.line ≤ t.lines.length) :
    (t.lines.zipIdx 1).flatMap (fun (content, n) => entries place blanks n content) =
      windowWith t place blanks := by
  obtain ⟨hfirst, hnear, hle, htop⟩ := firstShown_bounds hone
  obtain ⟨hlast, hle', hnear', hbottom⟩ := lastShown_bounds hlines
  rw [zipIdx_lines, List.flatMap_map, range'_lines hone hlines]
  simp only [List.flatMap_append, List.flatMap_cons, entries_of_line]
  have habove : (List.range' 1 (firstShown place - 1)).flatMap
      (fun n => entries place blanks n (t.line n)) = [] := flatMap_entries_of_far (by omega)
  have hbelow : (List.range' (lastShown t place + 1) (t.lines.length - lastShown t place)).flatMap
      (fun n => entries place blanks n (t.line n)) = [] := flatMap_entries_of_far (by omega)
  rw [habove, hbelow, flatMap_entries_of_near hnear (by omega) (by omega),
    flatMap_entries_of_near (by omega) (by omega) (by omega), windowWith, List.nil_append,
    List.append_nil, List.append_assoc]

theorem length_windowWith (blanks : Nat) (hone : 1 ≤ place.line)
    (hlines : place.line ≤ t.lines.length) :
    (windowWith t place blanks).length = lastShown t place - firstShown place + 2 := by
  have hfirst := firstShown_bounds hone
  have hlast := lastShown_bounds hlines
  simp only [windowWith, unmarked, marked, List.length_append, List.length_map, List.length_range',
    List.length_cons, List.length_nil]
  omega

/-! ## The blanks -/

theorem length_margin (n : Nat) : (margin n true).length = n.repr.length + 7 := by
  show ("  > " ++ n.repr ++ " | ").length = _
  rw [String.length_append, String.length_append]
  show 4 + n.repr.length + 3 = _
  omega

/-- A margin is made of characters of one byte. -/
theorem utf8ByteSize_margin (n : Nat) :
    (margin n true).utf8ByteSize = (margin n true).length := by
  rw [length_margin]
  show ("  > " ++ n.repr ++ " | ").utf8ByteSize = _
  rw [String.utf8ByteSize_append, String.utf8ByteSize_append, utf8ByteSize_repr]
  show 4 + n.repr.length + 3 = _
  omega

/-- The blanks in front of a pointer below a place in a text can be counted, if the text is not
longer than texts can be. -/
theorem StandsOn.pointerOffset_lt (h : l.StandsOn above line below)
    (hplace : l.coordinate? = some place) (hin : l.offset ≤ l.text.size)
    (hsize : l.text.size ≤ longestText) : pointerOffset place < wordCount := by
  obtain rfl := Option.some.inj (h.coordinate.symm.trans hplace)
  have habove := length_le_linesSize above
  have hle := h.linesSize_le
  have hline : above.length + 1 < 10 ^ 19 := by
    have hlong : longestText + 1 < 10 ^ 19 := by decide
    omega
  have hdigits := Nat.repr_length _ 19 (by decide) hline
  have hword : 26 + longestText < wordCount := by decide
  rw [pointerOffset, utf8ByteSize_margin, length_margin]
  dsimp only
  omega

/-! ## Excerpts and reports -/

/-- What the machine makes of an excerpt that is to have these entries, and of the reports with
it.  Nothing is shown if there is no room for one of the entries, and no report if there is none
for the report. -/
structure Draws (m : Machine) (l : Location) (place : Coordinate) (entries : List String) :
    Prop where
  excerpt : m.HasRoom entries → l.excerptIn? m = some entries
  report : m.HasRoom entries → ∀ (cause : Cause) (text : String),
    text = s!"Syntax error at line {place.line}, byte offset {place.byteOffset}: " ++ cause.text ++
      "\n\n" ++ String.join (entries.map (· ++ "\n")) →
    (Failure.mk cause l).reportIn? m = if text.utf8ByteSize ≤ m.room then some text else none
  noRoom : ¬ m.HasRoom entries →
    l.excerptIn? m = none ∧ ∀ cause, (Failure.mk cause l).reportIn? m = none

theorem reportIn?_eq_none (h : l.excerptIn? m = none) (cause : Cause) :
    (Failure.mk cause l).reportIn? m = none := by
  rw [Failure.reportIn?, h]
  cases l.coordinate? <;> rfl

theorem draws_of_excerptIn? {entries : List String} (hplace : l.coordinate? = some place)
    (h : l.excerptIn? m = (some entries).filter fun entries => m.HasRoom entries) :
    l.Draws m place entries := by
  rw [Option.filter_some] at h
  have hexcerpt (hroom : m.HasRoom entries) : l.excerptIn? m = some entries := by
    rw [h, if_pos (decide_eq_true hroom)]
  refine ⟨hexcerpt, fun hroom cause text htext => ?_, fun hroom => ?_⟩
  · rw [Failure.reportIn?]
    simp only [hplace, hexcerpt hroom]
    rw [Failure.message, ← htext, Option.guard]
    simp only [decide_eq_true_iff]
  · have hnone : l.excerptIn? m = none := by
      rw [h, if_neg (mt of_decide_eq_true hroom)]
    exact ⟨hnone, reportIn?_eq_none hnone⟩

theorem pointer_mem_windowWith (t : Text) (place : Coordinate) (blanks : Nat) :
    pointer blanks ∈ windowWith t place blanks := by
  simp [windowWith, marked, pointer, caret]

theorem utf8ByteSize_pointer (blanks : Nat) :
    (pointer blanks).utf8ByteSize = blanks + caret.utf8ByteSize := by
  have hblanks : ∀ c ∈ List.replicate blanks ' ', c.utf8Size = 1 := fun c hc => by
    rw [List.eq_of_mem_replicate hc]
    rfl
  rw [pointer, String.utf8ByteSize_append, utf8ByteSize_ofList, size_eq_length_iff.mpr hblanks,
    List.length_replicate]

theorem le_room_of_hasRoom (h : m.HasRoom (windowWith t place blanks)) :
    blanks + caret.utf8ByteSize ≤ m.room := by
  rw [← utf8ByteSize_pointer]
  exact h _ (pointer_mem_windowWith t place blanks)

/-- A pointer that is too long is one of the entries that there is no room for, so that it does
not matter whether it is made. -/
theorem StandsOn.excerptIn?_eq (h : l.StandsOn above line below)
    (hplace : l.coordinate? = some place) (hword : m.word? (pointerOffset place) = some blanks) :
    l.excerptIn? m =
      (some (windowWith l.text place blanks)).filter fun entries => m.HasRoom entries := by
  obtain ⟨hone, hlines⟩ := h.line_bounds hplace
  rw [excerptIn?, hplace, Option.bind_some, blanksIn?, hword, Option.filter_some]
  by_cases hroom : blanks + caret.utf8ByteSize ≤ m.room
  · rw [if_pos (decide_eq_true hroom), Option.map_some, flatMap_entries blanks hone hlines]
  · have hlong : ¬ m.HasRoom (windowWith l.text place blanks) := mt le_room_of_hasRoom hroom
    rw [if_neg (mt of_decide_eq_true hroom), Option.map_none, Option.filter_none,
      Option.filter_some, if_neg (mt of_decide_eq_true hlong)]

/-- What is shown at a location with the coordinate `place`: the window, and on a machine that does
not check its arithmetic the window with the remainder, if the number of blanks is not a word. -/
structure Shows (m : Machine) (l : Location) (place : Coordinate) : Prop where
  length : (window l.text place).length =
    min l.text.lines.length (place.line + 2) - max 1 (place.line - 2) + 2
  draws : pointerOffset place < wordCount → l.Draws m place (window l.text place)
  stops : wordCount ≤ pointerOffset place → m.checked = true →
    l.excerptIn? m = none ∧ ∀ cause, (Failure.mk cause l).reportIn? m = none
  wraps : wordCount ≤ pointerOffset place → m.checked = false →
    l.Draws m place (windowWith l.text place (pointerOffset place % wordCount))

theorem StandsOn.shows (h : l.StandsOn above line below) (m : Machine)
    (hplace : l.coordinate? = some place) : l.Shows m place := by
  obtain ⟨hone, hlines⟩ := h.line_bounds hplace
  refine ⟨length_windowWith _ hone hlines, fun hword => ?_, fun hlong hm => ?_, fun hlong hm => ?_⟩
  · exact draws_of_excerptIn? hplace (h.excerptIn?_eq hplace (m.word?_of_lt hword))
  · have hnone : l.excerptIn? m = none := by
      rw [excerptIn?, hplace, Option.bind_some, blanksIn?, m.word?_of_checked hm hlong]
      rfl
    exact ⟨hnone, reportIn?_eq_none hnone⟩
  · exact draws_of_excerptIn? hplace (h.excerptIn?_eq hplace (m.word?_of_unchecked hm hlong))

/-- A place so far behind a text of one character that no machine can draw the pointer below it. -/
theorem no_window_far_out :
    (Location.mk ['a'] 9223372036854775808).Readable ∧
    (Location.mk ['a'] 9223372036854775808).coordinate? = some ⟨1, 9223372036854775808⟩ ∧
    ∀ m : Machine,
      (Location.mk ['a'] 9223372036854775808).excerptIn? m ≠
        some (window ['a'] ⟨1, 9223372036854775808⟩) ∧
      (Location.mk ['a'] 9223372036854775808).excerptIn? m = none ∧
      (Failure.mk .expectedEndOfInput ⟨['a'], 9223372036854775808⟩).reportIn? m = none := by
  have hl : (Location.mk ['a'] 9223372036854775808).Readable := .inr (by decide)
  have hplace : (Location.mk ['a'] 9223372036854775808).coordinate? =
      some ⟨1, 9223372036854775808⟩ := rfl
  refine ⟨hl, hplace, fun m => ?_⟩
  obtain ⟨-, above, line, below, -, -, h⟩ := hl.exists_standsOn
  have hlong : ¬ m.HasRoom (window ['a'] ⟨1, 9223372036854775808⟩) := by
    intro hroom
    have hpointer := le_room_of_hasRoom hroom
    dsimp only at hpointer
    have hle := m.room_le
    have hfar : longestText < 9223372036854775808 := by decide
    omega
  obtain ⟨hexcerpt, hreport⟩ := ((h.shows m hplace).draws (by decide)).noRoom hlong
  refine ⟨fun hwindow => ?_, hexcerpt, hreport _⟩
  cases hexcerpt.symm.trans hwindow

theorem StandsOn.line_eq (h : l.StandsOn above line below) :
    l.text.line (above.length + 1) = line := by
  rw [Text.line, Nat.add_sub_cancel, h.getElem?, Option.getD_some]

end Location

namespace Parser

open Text Location

variable {S : Signature} {α : Type} {g : Grammar S} {depth : Nat} {p : Parser S α} {c : Cursor}
  {l : Location} {f : Failure}

/-- A run of the parser from `c`, or from an offset in the same text, ends with the failure. -/
def FailsWith (g : Grammar S) (depth : Nat) (p : Parser S α) (c : Cursor) (f : Failure) : Prop :=
  (∃ log, parseWithin g depth p c = .ok (.failure f, log)) ∨
    ∃ i log, runAt g depth p c.text i = .ok (.failure f, log)

theorem reaches_of_failure {log : List Record} (hc : c.OnBoundary)
    (h : parseWithin g depth p c = .ok (.failure f, log)) : c.Reaches f.location := by
  have hsafe := safe_parseWithin g depth p hc
  rw [h] at hsafe
  exact hsafe.1

/-- A failure is between two characters of the text that was parsed. -/
theorem FailsWith.location (h : FailsWith g depth p c f) (hc : c.OnBoundary) :
    f.location.text = c.text ∧ c.text.IsBoundary f.location.offset := by
  obtain ⟨log, hrun⟩ | ⟨i, log, hrun⟩ := h
  · have hreach := reaches_of_failure hc hrun
    exact ⟨hreach.text_eq, hreach.isBoundary⟩
  · obtain ⟨records, hparse, -⟩ := Run.record_eq_ok_iff.mp hrun
    have hreach := reaches_of_failure (Cursor.onBoundary_ofOffset c.text i) hparse
    exact ⟨hreach.text_eq, hreach.isBoundary⟩

/-- A location between characters or past the end has a coordinate, and its line is one of those
of the text.  The excerpt there is the window of the lines around that line, and a report is its
message with the coordinate in front and the window behind.  What there is no room for is not made,
and neither is a pointer whose blanks a machine cannot count.  So it is for the failures of a
parser, whose line is the one that holds the place of the failure, and whose blanks any machine
can count. -/
theorem reports_show_window (m : Machine) (g : Grammar S) (depth : Nat) (p : Parser S α)
    (hl : l.Readable) (hc : c.OnBoundary) (hf : FailsWith g depth p c f) :
    (∃ place, l.coordinate? = some place ∧ 1 ≤ place.line ∧
      place.line ≤ l.text.lines.length ∧ l.Shows m place) ∧
    f.location.text = c.text ∧ ∃ place, f.location.coordinate? = some place ∧
      linesSize (c.text.lines.take (place.line - 1)) ≤ f.position ∧
      f.position ≤ linesSize (c.text.lines.take (place.line - 1)) +
        (c.text.line place.line).size ∧
      f.location.Shows m place ∧ (c.text.size ≤ longestText → pointerOffset place < wordCount) := by
  constructor
  · obtain ⟨-, above, line, below, -, -, h⟩ := hl.exists_standsOn
    obtain ⟨hone, hlines⟩ := h.line_bounds h.coordinate
    exact ⟨_, h.coordinate, hone, hlines, h.shows m h.coordinate⟩
  · obtain ⟨htext, hb⟩ := hf.location hc
    rw [← htext] at hb
    obtain ⟨-, above, line, below, -, -, h⟩ := Readable.exists_standsOn (.inl hb)
    refine ⟨htext, _, h.coordinate, ?_, ?_, h.shows m h.coordinate, fun hsize => ?_⟩
    · rw [← htext]
      dsimp only
      rw [Nat.add_sub_cancel, h.take]
      exact h.linesSize_le
    · rw [← htext]
      dsimp only
      rw [Nat.add_sub_cancel, h.take, h.line_eq]
      exact h.le_line hb.le_size
    · rw [← htext] at hsize
      exact h.pointerOffset_lt h.coordinate hb.le_size hsize

/-- A nest that is not closed on the second of four lines, behind a character of two bytes, and a
place past the end of the text. -/
theorem unclosed_reported :
    (Location.mk ['é', '\n', '(', 'é', '\n', '\n'] 9).Readable ∧
    (∃ log, parseWithin Nested.grammar 3 Nested.nested ⟨['é', '\n', '(', 'é', '\n', '\n'], 3⟩ =
      .ok (.failure ⟨.expectedLiteral ['x'], ⟨['é', '\n', '(', 'é', '\n', '\n'], 3⟩⟩, log)) ∧
    (Location.mk ['é', '\n', '(', 'é', '\n', '\n'] 9).excerpt? =
      some ["    2 | (é", "    3 | ", "  > 4 | ", "         ^--- here"] ∧
    (Failure.mk (.expectedLiteral ['x']) ⟨['é', '\n', '(', 'é', '\n', '\n'], 3⟩).report? =
      some ("Syntax error at line 2, byte offset 0: Expected \"x\"\n\n    1 | é\n  > 2 | (é\n" ++
        "        ^--- here\n    3 | \n    4 | \n") := by
  have hl : (Location.mk ['é', '\n', '(', 'é', '\n', '\n'] 9).Readable := .inr (by decide)
  have hc : (Cursor.mk ['é', '\n', '(', 'é', '\n', '\n'] 3).OnBoundary :=
    ⟨['é', '\n'], ['(', 'é', '\n', '\n'], rfl, rfl⟩
  have hrun : ∃ log, parseWithin Nested.grammar 3 Nested.nested
      ⟨['é', '\n', '(', 'é', '\n', '\n'], 3⟩ =
      .ok (.failure ⟨.expectedLiteral ['x'], ⟨['é', '\n', '(', 'é', '\n', '\n'], 3⟩⟩, log) :=
    ⟨[], rfl⟩
  obtain ⟨⟨place, hplace, -, -, hshows⟩, -, place', hplace', -, -, hshows', hword⟩ :=
    reports_show_window .strict Nested.grammar 3 Nested.nested hl hc (.inl hrun)
  cases hplace
  cases hplace'
  have hexcerpt := (hshows.draws (by decide)).excerpt (by decide)
  have hreport := (hshows'.draws (hword (by decide))).report (by decide) (.expectedLiteral ['x'])
    _ rfl
  refine ⟨hl, hrun, hexcerpt.trans ?_, hreport.trans ?_⟩
  · rfl
  · rfl

end Parser

end TextGrammar
