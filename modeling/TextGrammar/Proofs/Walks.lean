/-
Walks over a text.

A step leaves the text alone and does not lead past its end.  Nothing else can be said of where a
walk may get to: `advance` leads to every offset, also to those inside characters.  From inside a
character the text cannot be read, and the only step that is impossible there is `next`.  A walk
that advances over nothing but text it has in front of it never gets inside a character.
-/
import TextGrammar.Cursor.Walk
import TextGrammar.Proofs.Boundary

namespace TextGrammar
namespace Cursor

variable {t : Text} {b c d e : Cursor}

/-- A cursor of the text `t` that is not past its end. -/
structure LiesIn (t : Text) (c : Cursor) : Prop where
  text_eq : c.text = t
  le_size : c.offset ≤ t.size

/-- The cursors that walks over `t` begin with. -/
def Begins (t : Text) (c : Cursor) : Prop := c = .start t ∨ ∃ n, c = .ofOffset t n

theorem Begins.text_eq (h : Begins t c) : c.text = t := by
  obtain rfl | ⟨n, rfl⟩ := h <;> rfl

theorem Begins.onBoundary (h : Begins t c) : c.OnBoundary := by
  obtain rfl | ⟨n, rfl⟩ := h
  · exact t.isBoundary_zero
  · exact onBoundary_ofOffset t n

theorem Begins.liesIn (h : Begins t c) : c.LiesIn t := by
  have hsize := h.onBoundary.le_size
  rw [h.text_eq] at hsize
  exact ⟨h.text_eq, hsize⟩

theorem LiesIn.advance (h : c.LiesIn t) (n : Nat) : (c.advance n).LiesIn t := by
  refine ⟨h.text_eq, ?_⟩
  rw [← h.text_eq]
  exact Nat.min_le_right _ _

theorem LiesIn.le_advance (h : c.LiesIn t) (n : Nat) : c.offset ≤ (c.advance n).offset := by
  have hsize := h.le_size
  rw [← h.text_eq] at hsize
  show c.offset ≤ min (c.offset + n) c.text.size
  omega

/-! ## One step -/

theorem peek?_eq_none_iff : c.peek? = none ↔ ¬ c.OnBoundary := by
  rw [peek?, Option.map_eq_none_iff, rest?_eq_none_iff]

theorem next?_eq_none_iff : c.next? = none ↔ ¬ c.OnBoundary := by
  rw [next?, Option.map_eq_none_iff, peek?_eq_none_iff]

/-- `next` moves over the character at the cursor.  At the end there is none. -/
theorem next?_eq_some_iff :
    c.next? = some d ↔
      (∃ ch r, c.rest? = some (ch :: r) ∧ d = c.advance (Text.size [ch])) ∨
        (c.rest? = some [] ∧ d = c) := by
  cases hrest : c.rest? with
  | none =>
    rw [next?_eq_none_iff.mpr (rest?_eq_none_iff.mp hrest)]
    simp
  | some r =>
    cases r with
    | nil =>
      rw [next?_of_rest?_nil hrest]
      simp [eq_comm]
    | cons ch r =>
      rw [next?_of_rest?_cons hrest]
      simp [eq_comm]

theorem next?_onBoundary (h : c.next? = some d) : d.OnBoundary := by
  obtain ⟨ch, r, hrest, rfl⟩ | ⟨hrest, rfl⟩ := next?_eq_some_iff.mp h
  · exact onBoundary_of_rest? (rest?_advance (s := [ch]) hrest)
  · exact onBoundary_of_rest? hrest

/-- `next` moves by the length of the next character, or not at all if there is none. -/
theorem next?_offset (h : c.next? = some d) :
    (∃ ch, c.peek? = some (some ch) ∧ d.offset = c.offset + ch.utf8Size) ∨
      (c.peek? = some none ∧ c.atEnd = true ∧ d = c) := by
  obtain ⟨ch, r, hrest, rfl⟩ | ⟨hrest, rfl⟩ := next?_eq_some_iff.mp h
  · have hoff := (advance_of_rest? (s := [ch]) hrest).2.1
    exact .inl ⟨ch, peek?_of_rest? hrest, hoff⟩
  · exact .inr ⟨peek?_of_rest? hrest, rest?_eq_some_nil_iff.mp hrest, rfl⟩

theorem LiesIn.next? (h : c.LiesIn t) (hd : c.next? = some d) : d.LiesIn t := by
  obtain ⟨ch, r, -, rfl⟩ | ⟨-, rfl⟩ := next?_eq_some_iff.mp hd
  · exact h.advance _
  · exact h

/-! ## Slices -/

theorem sliceTo?_eq_none_iff :
    c.sliceTo? d = none ↔
      ¬ (c.text.IsBoundary c.offset ∧ c.text.IsBoundary (max c.offset d.offset)) := by
  rw [sliceTo?, Nat.max_comm d.offset]
  exact Text.slice?_eq_none_iff (Nat.le_max_left _ _)

theorem sliceTo?_eq_some_iff {s : Text} :
    c.sliceTo? d = some s ↔
      ∃ a r, c.text = a ++ (s ++ r) ∧ c.offset = a.size ∧
        max c.offset d.offset = a.size + s.size := by
  rw [sliceTo?, Nat.max_comm d.offset]
  exact Text.slice?_eq_some_iff

theorem LiesIn.reaches (hc : c.LiesIn t) (hd : d.LiesIn t) (hb : d.OnBoundary)
    (hle : c.offset ≤ d.offset) : c.Reaches d.location := by
  have htext : d.text = c.text := hd.text_eq.trans hc.text_eq.symm
  refine ⟨htext, ?_, hle, ?_⟩
  · rw [← htext]
    exact hb
  · rw [hc.text_eq]
    exact hd.le_size

namespace Walk

variable {w w' : Walk} {s : Step}

def run? (w : Walk) : List Step → Option Walk
  | [] => some w
  | s :: steps => (w.step? s).bind (run? · steps)

/-- Only a `next` from inside a character is impossible. -/
theorem step?_eq_none_iff : w.step? s = none ↔ s = .next ∧ ¬ w.current.OnBoundary := by
  cases s with
  | next => simp [step?, next?_eq_none_iff]
  | advance n => simp [step?]
  | save => simp [step?]
  | restore => simp [step?]

/-! ## What every step keeps -/

structure LiesIn (t : Text) (w : Walk) : Prop where
  current : w.current.LiesIn t
  saved : w.saved.LiesIn t

theorem LiesIn.step (h : w.LiesIn t) (hs : w.step? s = some w') : w'.LiesIn t := by
  cases s with
  | next =>
    obtain ⟨d, hd, rfl⟩ := Option.map_eq_some_iff.mp hs
    exact ⟨h.current.next? hd, h.saved⟩
  | advance n =>
    cases hs
    exact ⟨h.current.advance n, h.saved⟩
  | save =>
    cases hs
    exact ⟨h.current, h.current⟩
  | restore =>
    cases hs
    exact ⟨h.saved, h.saved⟩

theorem LiesIn.run {steps : List Step} (h : w.LiesIn t) (hrun : w.run? steps = some w') :
    w'.LiesIn t := by
  induction steps generalizing w with
  | nil =>
    cases hrun
    exact h
  | cons s steps ih =>
    obtain ⟨v, hv, hrest⟩ := Option.bind_eq_some_iff.mp hrun
    exact ih (h.step hv) hrest

theorem liesIn_beginAt (h : Begins t b) : (beginAt b).LiesIn t := ⟨h.liesIn, h.liesIn⟩

/-- A walk breaks off at the first `next` that it takes inside a character, and nowhere else. -/
theorem run?_eq_none_iff {steps : List Step} :
    w.run? steps = none ↔
      ∃ taken left v, steps = taken ++ .next :: left ∧ w.run? taken = some v ∧
        ¬ v.current.OnBoundary := by
  constructor
  · intro h
    induction steps generalizing w with
    | nil => cases h
    | cons s steps ih =>
      cases hs : w.step? s with
      | none =>
        obtain ⟨rfl, hb⟩ := step?_eq_none_iff.mp hs
        exact ⟨[], steps, w, rfl, rfl, hb⟩
      | some v =>
        rw [run?, hs] at h
        obtain ⟨taken, left, u, rfl, hrun, hb⟩ := ih h
        refine ⟨s :: taken, left, u, rfl, ?_, hb⟩
        rw [run?, hs]
        exact hrun
  · rintro ⟨taken, left, v, rfl, hrun, hb⟩
    induction taken generalizing w with
    | nil =>
      cases hrun
      rw [List.nil_append, run?, step?_eq_none_iff.mpr ⟨rfl, hb⟩]
      rfl
    | cons s taken ih =>
      obtain ⟨u, hu, hrest⟩ := Option.bind_eq_some_iff.mp hrun
      rw [List.cons_append, run?, hu]
      exact ih hrest

/-! ## Walks that stay between characters -/

/-- Every `advance` is over text that stands at the cursor. -/
def Careful (w : Walk) (steps : List Step) : Prop :=
  ∀ taken n left v, steps = taken ++ .advance n :: left → w.run? taken = some v →
    ∃ s r, v.current.rest? = some (s ++ r) ∧ n = s.size

structure OnBoundary (w : Walk) : Prop where
  current : w.current.OnBoundary
  saved : w.saved.OnBoundary

theorem Careful.tail {steps : List Step} (h : w.Careful (s :: steps))
    (hs : w.step? s = some w') : w'.Careful steps := by
  intro taken n left v heq hrun
  refine h (s :: taken) n left v (congrArg (s :: ·) heq) ?_
  rw [run?, hs]
  exact hrun

theorem Careful.step {steps : List Step} (h : w.Careful (s :: steps)) (hw : w.OnBoundary) :
    ∃ w', w.step? s = some w' ∧ w'.OnBoundary := by
  cases s with
  | next =>
    cases hd : w.current.next? with
    | none => exact absurd hw.current (next?_eq_none_iff.mp hd)
    | some d =>
      refine ⟨{ w with current := d }, ?_, next?_onBoundary hd, hw.saved⟩
      rw [step?, hd]
      rfl
  | advance n =>
    obtain ⟨s, r, hrest, rfl⟩ := h [] n steps w rfl rfl
    exact ⟨_, rfl, onBoundary_of_rest? (rest?_advance hrest), hw.saved⟩
  | save => exact ⟨_, rfl, hw.current, hw.current⟩
  | restore => exact ⟨_, rfl, hw.saved, hw.saved⟩

theorem Careful.run {taken left : List Step} (h : w.Careful (taken ++ left))
    (hw : w.OnBoundary) : ∃ w', w.run? taken = some w' ∧ w'.OnBoundary := by
  induction taken generalizing w with
  | nil => exact ⟨w, rfl, hw⟩
  | cons s taken ih =>
    obtain ⟨v, hs, hv⟩ := h.step hw
    obtain ⟨w', hrun, hw'⟩ := ih (h.tail hs) hv
    refine ⟨w', ?_, hw'⟩
    rw [run?, hs]
    exact hrun

end Walk

/-! ## The cursors of all walks -/

/-- A cursor on which a walk over `t` stands, or which it has saved. -/
def Visited (t : Text) (c : Cursor) : Prop :=
  ∃ b steps w, Begins t b ∧ (Walk.beginAt b).run? steps = some w ∧
    (c = w.current ∨ c = w.saved)

theorem visited_iff : Visited t c ↔ c.LiesIn t := by
  constructor
  · rintro ⟨b, steps, w, hb, hrun, hc⟩
    have hw := (Walk.liesIn_beginAt hb).run hrun
    obtain rfl | rfl := hc
    · exact hw.current
    · exact hw.saved
  · rintro ⟨rfl, hsize⟩
    refine ⟨.start c.text, [.advance c.offset], _, .inl rfl, rfl, .inl ?_⟩
    show c = Cursor.mk c.text (min (0 + c.offset) c.text.size)
    rw [Nat.zero_add, Nat.min_eq_left hsize]

/-- What holds of all walks over a text, however their steps are mixed.  They visit the offsets up
to the end, and these only.  Moving on never lowers the offset, and moving twice is moving once by
the sum.  At a cursor the text can be read, and `next` can be taken, unless the cursor is inside a
character; `next` then leads from no boundary to anything else.  A slice is cut from the first
cursor to the later one of the two, unless one of these is inside a character, and slices in a row
join.  A walk breaks off only at a `next` inside a character, and if it advances over nothing but
text in front of it, it stays on boundaries and does not break off. -/
theorem walks_stay_in_text {t : Text} {c d e : Cursor} (hc : Visited t c) (hd : Visited t d)
    (he : Visited t e) :
    (c.text = t ∧ c.offset ≤ t.size ∧ (c.atEnd = true ↔ c.offset = t.size)) ∧
    ((∀ n, c.offset ≤ (c.advance n).offset) ∧ ∀ m n, (c.advance m).advance n = c.advance (m + n)) ∧
    ((c.rest? = none ↔ ¬ c.OnBoundary) ∧ (c.peek? = none ↔ ¬ c.OnBoundary) ∧
      (c.next? = none ↔ ¬ c.OnBoundary)) ∧
    (∀ c', c.next? = some c' → c'.OnBoundary ∧
      ((∃ ch, c.peek? = some (some ch) ∧ c'.offset = c.offset + ch.utf8Size) ∨
        (c.peek? = some none ∧ c.atEnd = true ∧ c' = c))) ∧
    ((c.sliceTo? d = none ↔
        ¬ (t.IsBoundary c.offset ∧ t.IsBoundary (max c.offset d.offset))) ∧
      ∀ s, c.sliceTo? d = some s ↔ ∃ a r, t = a ++ (s ++ r) ∧ c.offset = a.size ∧
        max c.offset d.offset = a.size + s.size) ∧
    (c.OnBoundary → d.OnBoundary → e.OnBoundary → c.offset ≤ d.offset → d.offset ≤ e.offset →
      ∃ s u, c.sliceTo? d = some s ∧ d.sliceTo? e = some u ∧ c.sliceTo? e = some (s ++ u)) ∧
    ∀ b steps, Begins t b →
      ((Walk.beginAt b).run? steps = none ↔ ∃ taken left w, steps = taken ++ .next :: left ∧
        (Walk.beginAt b).run? taken = some w ∧ ¬ w.current.OnBoundary) ∧
      ((Walk.beginAt b).Careful steps → ∀ taken left, steps = taken ++ left →
        ∃ w, (Walk.beginAt b).run? taken = some w ∧ w.current.OnBoundary ∧
          w.saved.OnBoundary) := by
  have hc' := visited_iff.mp hc
  have hd' := visited_iff.mp hd
  obtain rfl := hc'.text_eq
  refine ⟨⟨rfl, hc'.le_size, ?_⟩, ⟨hc'.le_advance, advance_advance c⟩,
    ⟨rest?_eq_none_iff, peek?_eq_none_iff, next?_eq_none_iff⟩, fun c' h => ?_,
    ⟨sliceTo?_eq_none_iff, fun s => sliceTo?_eq_some_iff⟩, ?_, fun b steps hb => ?_⟩
  · rw [atEnd, beq_iff_eq]
  · exact ⟨next?_onBoundary h, next?_offset h⟩
  · intro hcb hdb heb hcd hde
    have hreach := hc'.reaches hd' hdb hcd
    have hreach' := hd'.reaches (visited_iff.mp he) heb hde
    obtain ⟨s, hs⟩ := hreach.exists_sliceTo? hcb
    obtain ⟨u, hu⟩ := hreach'.exists_sliceTo? hdb
    exact ⟨s, u, hs, hu, hreach.sliceTo?_trans hcb hreach' hs hu⟩
  · refine ⟨Walk.run?_eq_none_iff, ?_⟩
    rintro hcareful taken left rfl
    obtain ⟨w, hrun, hw⟩ := hcareful.run ⟨hb.onBoundary, hb.onBoundary⟩
    exact ⟨w, hrun, hw.current, hw.saved⟩

/-- Inside a character of two bytes not even an empty slice can be cut.  In front of it and behind
it slices join. -/
theorem two_byte_walks :
    Visited ['a', 'é', 'b'] ⟨['a', 'é', 'b'], 2⟩ ∧
    (Cursor.mk ['a', 'é', 'b'] 2).next? = none ∧
    (Cursor.mk ['a', 'é', 'b'] 2).sliceTo? ⟨['a', 'é', 'b'], 2⟩ = none ∧
    (∃ s u, (Cursor.mk ['a', 'é', 'b'] 1).sliceTo? ⟨['a', 'é', 'b'], 3⟩ = some s ∧
      (Cursor.mk ['a', 'é', 'b'] 3).sliceTo? ⟨['a', 'é', 'b'], 4⟩ = some u ∧
      (Cursor.mk ['a', 'é', 'b'] 1).sliceTo? ⟨['a', 'é', 'b'], 4⟩ = some (s ++ u)) ∧
    ∃ w, (Walk.beginAt (.start ['a', 'é', 'b'])).run? [.next, .save, .advance 2] = some w ∧
      w.current.OnBoundary ∧ w.saved.OnBoundary := by
  have hvisited (n : Nat) (hn : n ≤ 4) : Visited ['a', 'é', 'b'] ⟨['a', 'é', 'b'], n⟩ :=
    visited_iff.mpr ⟨rfl, hn⟩
  have hinside : ¬ (Cursor.mk ['a', 'é', 'b'] 2).OnBoundary := rest?_eq_none_iff.mp rfl
  have h1 : (Cursor.mk ['a', 'é', 'b'] 1).OnBoundary := ⟨['a'], ['é', 'b'], rfl, rfl⟩
  have h3 : (Cursor.mk ['a', 'é', 'b'] 3).OnBoundary := ⟨['a', 'é'], ['b'], rfl, rfl⟩
  have h4 : (Cursor.mk ['a', 'é', 'b'] 4).OnBoundary := ⟨['a', 'é', 'b'], [], rfl, rfl⟩
  have hcareful : (Walk.beginAt (.start ['a', 'é', 'b'])).Careful [.next, .save, .advance 2] := by
    intro taken n left v heq hrun
    match taken with
    | [_, _] =>
      cases heq
      cases hrun
      exact ⟨['é'], ['b'], rfl, rfl⟩
    | [] => cases heq
    | [_] => cases heq
    | _ :: _ :: _ :: taken => cases taken <;> cases heq
  obtain ⟨-, -, ⟨-, -, hnext⟩, -, ⟨hslice, -⟩, -, hwalks⟩ :=
    walks_stay_in_text (hvisited 2 (by decide)) (hvisited 2 (by decide)) (hvisited 2 (by decide))
  obtain ⟨-, -, -, -, -, hjoin, -⟩ :=
    walks_stay_in_text (hvisited 1 (by decide)) (hvisited 3 (by decide)) (hvisited 4 (by decide))
  exact ⟨hvisited 2 (by decide), hnext.mpr hinside, hslice.mpr fun h => hinside h.1,
    hjoin h1 h3 h4 (by decide) (by decide), (hwalks _ _ (.inl rfl)).2 hcareful _ [] rfl⟩

end Cursor
end TextGrammar
