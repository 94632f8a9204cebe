/-
Where the values of a list come from.

`withSpan` gives with a value the part of the text that has been read for it.  In a sequence
and in a repetition these parts lie one behind the other with nothing between them, and so
they make up all that has been read.  In a separated list there is a separator between two of
them.

A repetition of separators and items is a repetition as well, whose items are marked behind a
gap.  So `Marks` has the gap as a parameter, and each loop is followed once for any of them.
-/
import TextGrammar.Proofs.Scanning
import TextGrammar.Proofs.SeparatedList

namespace TextGrammar

variable {S : Signature} {α β : Type}

/-! ## Spans one behind the other -/

namespace Span

/-- The ends of the span are in order, and between characters of the text. -/
structure Fits (s : Span) (t : Text) : Prop where
  isBoundary_start : t.IsBoundary s.start
  isBoundary_stop : t.IsBoundary s.stop
  le : s.start ≤ s.stop

/-- Spans of a text on the way from `i` to `j`.  From the end of one to the start of the next
there is a `gap`, and there is one in front of the first. -/
inductive Chained (t : Text) (gap : Nat → Nat → Prop) : Nat → List Span → Nat → Prop where
  | nil (i : Nat) : Chained t gap i [] i
  | cons {i j : Nat} {s : Span} {spans : List Span} :
    gap i s.start → s.Fits t → Chained t gap s.stop spans j → Chained t gap i (s :: spans) j

variable {t : Text} {s : Span} {spans : List Span} {i j : Nat} {c d : Cursor}

theorem Fits.reaches (h : s.Fits t) : (Cursor.mk t s.start).Reaches ⟨t, s.stop⟩ :=
  ⟨rfl, h.isBoundary_stop, h.le, h.isBoundary_stop.le_size⟩

theorem fits_of_reaches (hc : c.OnBoundary) (h : c.Reaches d.location) :
    Fits ⟨c.offset, d.offset⟩ c.text :=
  ⟨hc, h.isBoundary, h.le⟩

/-- A span is what is read between its ends. -/
theorem slice?_eq_sliceTo? (h : c.Reaches d.location) :
    slice? ⟨c.offset, d.offset⟩ c.text = c.sliceTo? d := by
  have hle : c.offset ≤ d.offset := h.le
  show c.text.slice? c.offset d.offset = c.text.slice? c.offset (max d.offset c.offset)
  rw [Nat.max_eq_left hle]

/-- A span that has a slice is as long as the slice, on every machine that has words for the
offsets in the text. -/
theorem lengthIn?_of_slice? (m : Machine) {u : Text} (h : s.slice? t = some u)
    (ht : t.size < wordCount) : s.lengthIn? m = some u.size := by
  obtain ⟨a, r, rfl, hstart, hstop⟩ := Text.slice?_eq_some_iff.mp h
  rw [Text.size_append, Text.size_append] at ht
  obtain ⟨hlength, hsub⟩ := lengthIn?_of_le m (s := s) (by omega) (by omega)
  rw [hlength, hsub]
  congr 1
  omega

theorem Chained.reaches (h : Chained t Eq i spans j) (hi : t.IsBoundary i) :
    (Cursor.mk t i).Reaches ⟨t, j⟩ := by
  induction h with
  | nil i => exact Cursor.OnBoundary.reaches (c := ⟨t, i⟩) hi
  | cons hgap hfits _ ih =>
    subst hgap
    exact Cursor.Reaches.trans (d := ⟨t, _⟩) hfits.reaches (ih hfits.isBoundary_stop)

/-- Nothing is left out between spans without a gap. -/
theorem Chained.exists_texts (h : Chained t Eq i spans j) (hi : t.IsBoundary i) :
    ∃ texts, spans.mapM (·.slice? t) = some texts ∧
      (Cursor.mk t i).sliceTo? ⟨t, j⟩ = some texts.flatten := by
  induction h with
  | nil i => exact ⟨[], rfl, Cursor.sliceTo?_self hi⟩
  | @cons i j s spans hgap hfits hchain ih =>
    subst hgap
    have hc : (Cursor.mk t s.start).OnBoundary := hi
    have hfirst : (Cursor.mk t s.start).Reaches (Cursor.mk t s.stop).location := hfits.reaches
    have hrest : (Cursor.mk t s.stop).Reaches (Cursor.mk t j).location :=
      hchain.reaches hfits.isBoundary_stop
    -- The slice of the first span reaches to where the texts of the others begin.
    obtain ⟨u, hu⟩ := hfirst.exists_sliceTo? hc
    have hslice : s.slice? t = some u := (slice?_eq_sliceTo? hfirst).trans hu
    obtain ⟨texts, htexts, hflatten⟩ := ih hfits.isBoundary_stop
    refine ⟨u :: texts, ?_, hfirst.sliceTo?_trans hc hrest hu hflatten⟩
    rw [List.mapM_cons, hslice, htexts]
    rfl

end Span

/-! ## Leaves -/

namespace Recogniser

open Run

variable {c next : Cursor} {t u : Text}

theorem sliceTo?_of_literal (h : (literal t c).Yields u next) : c.sliceTo? next = some u := by
  obtain ⟨rest, hrest, h⟩ := exists_of_yields_reading h
  by_cases ht : t.isPrefixOf rest = true
  · obtain ⟨r, rfl⟩ := List.isPrefixOf_iff_prefix.mp ht
    rw [if_pos ht] at h
    obtain ⟨rfl, rfl⟩ := yields_success h
    exact Cursor.sliceTo?_advance hrest
  · rw [if_neg ht] at h
    exact absurd h not_yields_failure

theorem sliceTo?_of_pattern {x : Pattern} (h : (pattern x c).Yields u next) :
    c.sliceTo? next = some u := by
  obtain ⟨⟨before, rest⟩, hsurround, h⟩ := exists_of_yields_reading h
  have hrest := c.surroundings?_map_snd
  rw [hsurround] at hrest
  dsimp only at h
  cases hm : x.matched? before rest with
  | none =>
    rw [hm] at h
    exact absurd h not_yields_failure
  | some t =>
    rw [hm] at h
    obtain ⟨r, rfl⟩ := Pattern.matched?_prefix hm
    obtain ⟨rfl, rfl⟩ := yields_success h
    exact Cursor.sliceTo?_advance hrest.symm

theorem sliceTo?_of_takeUntil {stop : Recogniser α} (h : (takeUntil stop c).Yields u next) :
    c.sliceTo? next = some u := by
  obtain ⟨-, last, -, h⟩ := exists_of_yields_andThen h
  obtain ⟨t, ht, h⟩ := exists_of_yields_reading h
  obtain ⟨rfl, rfl⟩ := yields_success h
  exact ht

end Recogniser

namespace Parser

variable {g : Grammar S} {p : Parser S α} {sep : Parser S β} {c next last : Cursor} {v : α}
  {vs : List α} {log : List Record}

/-! ## What the parts have read -/

theorem Returns.withSpan_eq {x : α × Span} (h : Returns g (withSpan p) c (.success x next, log)) :
    (∃ l, Returns g p c (.success x.1 next, l)) ∧ x.2 = ⟨c.offset, next.offset⟩ := by
  obtain ⟨depth, hrun⟩ := h
  rw [parseWithin_withSpan] at hrun
  obtain ⟨v, next', ⟨l, hp⟩, hend⟩ := Run.exists_of_yields_andThen ⟨log, hrun⟩
  obtain ⟨rfl, rfl⟩ := Run.yields_success hend
  exact ⟨⟨l, depth, hp⟩, rfl⟩

theorem Returns.of_keepRight {q : Parser S β} {w : β}
    (h : Returns g (keepRight p q) c (.success w last, log)) :
    ∃ v next l m, Returns g p c (.success v next, l) ∧ Returns g q next (.success w last, m) := by
  obtain ⟨depth, hrun⟩ := h
  rw [parseWithin_keepRight] at hrun
  obtain ⟨v, next, ⟨l, hp⟩, m, hq⟩ := Run.exists_of_yields_andThen ⟨log, hrun⟩
  exact ⟨v, next, l, m, ⟨depth, hp⟩, ⟨depth, hq⟩⟩

theorem parseWithin_inOrder (g : Grammar S) (depth : Nat) (ps : List (Parser S α)) :
    parseWithin g depth (inOrder ps) = Recogniser.sequence (ps.map (parseWithin g depth)) := by
  cases depth <;> exact denote_inOrder ps

theorem Returns.of_inOrder_nil (h : Returns g (inOrder []) c (.success vs last, log)) :
    vs = [] ∧ last = c := by
  obtain ⟨depth, hrun⟩ := h
  rw [parseWithin_inOrder] at hrun
  exact Run.yields_success ⟨log, hrun⟩

theorem Returns.of_inOrder_cons {ps : List (Parser S α)}
    (h : Returns g (inOrder (p :: ps)) c (.success vs last, log)) :
    ∃ v next vs' l m, vs = v :: vs' ∧ Returns g p c (.success v next, l) ∧
      Returns g (inOrder ps) next (.success vs' last, m) := by
  obtain ⟨depth, hrun⟩ := h
  rw [parseWithin_inOrder] at hrun
  obtain ⟨v, next, ⟨l, hp⟩, hmore⟩ := Run.exists_of_yields_andThen ⟨log, hrun⟩
  obtain ⟨vs', last', ⟨m, hps⟩, hend⟩ := Run.exists_of_yields_andThen hmore
  obtain ⟨rfl, rfl⟩ := Run.yields_success hend
  refine ⟨v, next, vs', l, m, rfl, ⟨depth, hp⟩, depth, ?_⟩
  rw [parseWithin_inOrder]
  exact hps

/-! ## Items that mark what they read -/

/-- The text from `i` to `j` is what the parser reads from `i`. -/
def ReadsOver (g : Grammar S) (p : Parser S α) (t : Text) (i j : Nat) : Prop :=
  ∃ v log, Returns g p ⟨t, i⟩ (.success v ⟨t, j⟩, log)

theorem Returns.readsOver (h : Returns g p c (.success v next, log)) (hc : c.OnBoundary) :
    ReadsOver g p c.text c.offset next.offset := by
  obtain ⟨t, n⟩ := next
  obtain rfl : t = c.text := (h.reaches hc).text_eq
  exact ⟨v, log, h⟩

/-- Wherever it succeeds in the text, the parser yields with its value a span that ends where it
has got to, with a gap in front of it. -/
def Marks (g : Grammar S) (p : Parser S (α × Span)) (t : Text) (gap : Nat → Nat → Prop) : Prop :=
  ∀ c v next log, c.OnBoundary → c.text = t → Returns g p c (.success v next, log) →
    gap c.offset v.2.start ∧ v.2.Fits t ∧ v.2.stop = next.offset

theorem marks_withSpan (g : Grammar S) (p : Parser S α) (t : Text) :
    Marks g (withSpan p) t Eq := by
  intro c v next log hc ht h
  obtain ⟨⟨l, hp⟩, hspan⟩ := h.withSpan_eq
  subst ht
  rw [hspan]
  exact ⟨rfl, Span.fits_of_reaches hc (hp.reaches hc), rfl⟩

/-- With a separator in front of each item the gap is what the separator reads. -/
theorem marks_keepRight (g : Grammar S) (p : Parser S α) (sep : Parser S β) (t : Text) :
    Marks g (keepRight sep (withSpan p)) t (ReadsOver g sep t) := by
  intro c v last log hc ht h
  obtain ⟨w, next, l, m, hsep, hp⟩ := h.of_keepRight
  have hreach := hsep.reaches hc
  have htext : next.text = c.text := hreach.text_eq
  subst ht
  obtain ⟨hstart, hfits, hstop⟩ :=
    marks_withSpan g p c.text next v last m hreach.onBoundary htext hp
  rw [← hstart]
  exact ⟨hsep.readsOver hc, hfits, hstop⟩

/-! ## One after the other -/

variable {t : Text} {gap : Nat → Nat → Prop}

section

variable {p : Parser S (α × Span)} {vs extra : List (α × Span)}
  {steps : List ((α × Span) × Cursor)}

/-- An item is in front of those that are marked behind it. -/
theorem Marks.chained_cons {x : α × Span} {spans : List Span} {j : Nat} (hp : Marks g p t gap)
    (hc : c.OnBoundary) (ht : c.text = t) (h : Returns g p c (.success x next, log))
    (hspans : Span.Chained t gap next.offset spans j) :
    Span.Chained t gap c.offset (x.2 :: spans) j := by
  obtain ⟨hgap, hfits, hstop⟩ := hp c x next log hc ht h
  rw [← hstop] at hspans
  exact .cons hgap hfits hspans

theorem Stops.chained (h : Stops g p c extra) (hp : Marks g p t gap) (hc : c.OnBoundary)
    (ht : c.text = t) : Span.Chained t gap c.offset (extra.map Prod.snd) c.offset := by
  cases h with
  | failed _ => exact .nil c.offset
  | stayed hs => exact hp.chained_cons hc ht hs (.nil c.offset)

theorem Trail.chained (h : Trail g p c steps) (hp : Marks g p t gap) (hc : c.OnBoundary)
    (ht : c.text = t) (hstop : Stops g p (trailEnd c steps) extra) :
    Span.Chained t gap c.offset ((steps.map Prod.fst ++ extra).map Prod.snd)
      (trailEnd c steps).offset := by
  induction h with
  | nil c => exact hstop.chained hp hc ht
  | @cons c next v log steps hr _ _ ih =>
    have hreach := hr.reaches hc
    have htext : next.text = t := hreach.text_eq.trans ht
    exact hp.chained_cons hc ht hr (ih hreach.onBoundary htext hstop)

theorem Returns.many_chained (h : Returns g (many p) c (.success vs last, log))
    (hp : Marks g p t gap) (hc : c.OnBoundary) (ht : c.text = t) :
    Span.Chained t gap c.offset (vs.map Prod.snd) last.offset := by
  obtain ⟨steps, extra, htrail, hstop, heq⟩ := h.exists_trail hc
  obtain ⟨rfl, rfl⟩ := Outcome.success.inj heq
  exact htrail.chained hp hc ht hstop

theorem Returns.inOrder_chained {ps : List (Parser S (α × Span))}
    (h : Returns g (inOrder ps) c (.success vs last, log)) (hps : ∀ p ∈ ps, Marks g p t gap)
    (hc : c.OnBoundary) (ht : c.text = t) :
    Span.Chained t gap c.offset (vs.map Prod.snd) last.offset := by
  induction ps generalizing c vs log with
  | nil =>
    obtain ⟨rfl, rfl⟩ := h.of_inOrder_nil
    exact .nil last.offset
  | cons p ps ih =>
    obtain ⟨v, next, vs', l, m, rfl, hp, hmore⟩ := h.of_inOrder_cons
    have hreach := hp.reaches hc
    have htext : next.text = t := hreach.text_eq.trans ht
    have hlater : ∀ q ∈ ps, Marks g q t gap := fun q hq => hps q (List.mem_cons_of_mem p hq)
    exact (hps p List.mem_cons_self).chained_cons hc ht hp
      (ih hmore hlater hreach.onBoundary htext)

end

/-- A match further on has text in its span. -/
theorem Trail.span_not_isEmpty {steps : List ((α × Span) × Cursor)}
    (h : Trail g (withSpan p) c steps) :
    ∀ s ∈ (steps.map Prod.fst).map Prod.snd, s.isEmpty = false := by
  induction h with
  | nil c => exact fun _ hs => absurd hs List.not_mem_nil
  | @cons c next x log steps hr hmove _ ih =>
    obtain ⟨-, hspan⟩ := hr.withSpan_eq
    intro s hs
    rw [List.map_cons, List.map_cons, List.mem_cons, hspan] at hs
    obtain rfl | hs := hs
    · exact beq_false_of_ne (Nat.ne_of_lt hmove)
    · exact ih s hs

/-- So the last span of a repetition is the only one that can be empty. -/
theorem Returns.many_dropLast {vs : List (α × Span)}
    (h : Returns g (many (withSpan p)) c (.success vs last, log)) (hc : c.OnBoundary) :
    ∀ s ∈ (vs.map Prod.snd).dropLast, s.isEmpty = false := by
  obtain ⟨steps, extra, htrail, hstop, heq⟩ := h.exists_trail hc
  obtain ⟨rfl, rfl⟩ := Outcome.success.inj heq
  intro s hs
  -- The last value is one that the parser has yielded without moving, if there is such a one,
  -- and otherwise the last of the trail.
  refine htrail.span_not_isEmpty s ?_
  cases hstop with
  | failed _ =>
    rw [List.append_nil] at hs
    exact List.dropLast_subset _ hs
  | stayed _ =>
    rwa [List.map_append, List.map_singleton, List.dropLast_concat] at hs

/-- The first item of a list is where it begins, and the others are behind a separator. -/
theorem Returns.sepBy_chained {x : α × Span} {vs : List (α × Span)}
    (h : Returns g (sepBy (withSpan p) sep) c (.success (x :: vs) last, log))
    (hc : c.OnBoundary) :
    x.2.start = c.offset ∧ x.2.Fits c.text ∧
      Span.Chained c.text (ReadsOver g sep c.text) x.2.stop (vs.map Prod.snd) last.offset := by
  obtain ⟨log', hlisted⟩ := returns_sepBy_iff.mp ⟨log, h⟩
  obtain ⟨hnil, -⟩ | ⟨v, first, vs', l, l', heq, hp, hmany⟩ := hlisted.of_listed
  · exact absurd hnil (List.cons_ne_nil x vs)
  · obtain ⟨rfl, rfl⟩ := List.cons.inj heq
    obtain ⟨hstart, hfits, hstop⟩ := marks_withSpan g p c.text c x first l hc rfl hp
    have hfirst := hp.reaches hc
    refine ⟨hstart.symm, hfits, ?_⟩
    rw [hstop]
    exact hmany.many_chained (marks_keepRight g p sep c.text) hfirst.onBoundary hfirst.text_eq

/-! ## Texts and their own spans -/

/-- The parsers that yield the very text they have read. -/
inductive IsTextLeaf : Parser S Text → Prop where
  | literal (t : Text) : IsTextLeaf (literal t)
  | pattern (x : Pattern) : IsTextLeaf (pattern x)
  | takeUntil {α : Type} (stop : Parser S α) : IsTextLeaf (takeUntil stop)

theorem IsTextLeaf.slice? {p : Parser S Text} {u : Text} {s : Span} (hp : IsTextLeaf p)
    (h : Returns g (withSpan p) c (.success (u, s) last, log)) (hc : c.OnBoundary) :
    s.slice? c.text = some u := by
  obtain ⟨⟨l, hread⟩, hspan⟩ := h.withSpan_eq
  obtain rfl : s = ⟨c.offset, last.offset⟩ := hspan
  rw [Span.slice?_eq_sliceTo? (hread.reaches hc)]
  obtain ⟨depth, hrun⟩ := hread
  obtain ⟨call, hcall⟩ := exists_parseWithin_eq_denote g depth
  rw [hcall] at hrun
  cases hp with
  | literal t => exact Recogniser.sliceTo?_of_literal ⟨l, hrun⟩
  | pattern x => exact Recogniser.sliceTo?_of_pattern ⟨l, hrun⟩
  | takeUntil stop => exact Recogniser.sliceTo?_of_takeUntil ⟨l, hrun⟩

/-! ## The parts make up the whole -/

/-- The spans cover what lies between two cursors: they lie there one behind the other, and the
texts in them together are the text in between. -/
structure Tiles (c : Cursor) (spans : List Span) (last : Cursor) : Prop where
  chained : Span.Chained c.text Eq c.offset spans last.offset
  flatten : ∃ texts, spans.mapM (·.slice? c.text) = some texts ∧
    c.sliceTo? last = some texts.flatten

theorem tiles_of_chained {spans : List Span} (hc : c.OnBoundary) (hlast : last.text = c.text)
    (h : Span.Chained c.text Eq c.offset spans last.offset) : Tiles c spans last := by
  obtain ⟨t, n⟩ := last
  obtain rfl : t = c.text := hlast
  exact ⟨h, h.exists_texts hc⟩

/-- From a boundary, the spans of a sequence or of a repetition cover what has been read, with
nothing left out, read twice or out of order.  In a repetition only the last one can be empty.
The spans of a separated list begin where the list does and end where it ends, and from the end
of each to the start of the next there is what the separator reads there.  A parser that yields
the text it has read yields the slice of its span. -/
theorem spans_tile (g : Grammar S) (hc : c.OnBoundary) :
    (∀ (ps : List (Parser S α)) vs last log,
      Returns g (inOrder (ps.map withSpan)) c (.success vs last, log) →
      Tiles c (vs.map Prod.snd) last) ∧
    (∀ (p : Parser S α) vs last log,
      Returns g (many (withSpan p)) c (.success vs last, log) →
      Tiles c (vs.map Prod.snd) last ∧
        ∀ s ∈ (vs.map Prod.snd).dropLast, s.isEmpty = false) ∧
    (∀ (p : Parser S α) (sep : Parser S β) v vs last log,
      Returns g (sepBy (withSpan p) sep) c (.success (v :: vs) last, log) →
      v.2.start = c.offset ∧ v.2.Fits c.text ∧
        Span.Chained c.text (ReadsOver g sep c.text) v.2.stop (vs.map Prod.snd) last.offset) ∧
    (∀ (p : Parser S Text) u s last log, IsTextLeaf p →
      Returns g (withSpan p) c (.success (u, s) last, log) → s.slice? c.text = some u) := by
  refine ⟨?_, ?_, ?_, ?_⟩
  · intro ps vs last log h
    have hps : ∀ p ∈ ps.map withSpan, Marks g p c.text Eq := by
      intro p hp
      obtain ⟨q, -, rfl⟩ := List.mem_map.mp hp
      exact marks_withSpan g q c.text
    exact tiles_of_chained hc (h.reaches hc).text_eq (h.inOrder_chained hps hc rfl)
  · intro p vs last log h
    refine ⟨?_, h.many_dropLast hc⟩
    have hchain := h.many_chained (marks_withSpan g p c.text) hc rfl
    exact tiles_of_chained hc (h.reaches hc).text_eq hchain
  · intro p sep v vs last log h
    exact h.sepBy_chained hc
  · intro p u s last log hp h
    exact hp.slice? h hc

/-- Behind a character of two bytes there is a nest, and another one behind a second such
character, which leaves nothing for the last item of a list. -/
theorem nested_spans :
    (Cursor.start ['é', '(', 'x', ')', 'é', 'x']).OnBoundary ∧
    Tiles (.start ['é', '(', 'x', ')', 'é', 'x']) [⟨0, 2⟩, ⟨2, 2⟩, ⟨2, 3⟩]
      ⟨['é', '(', 'x', ')', 'é', 'x'], 3⟩ ∧
    Tiles (.start ['é', '(', 'x', ')', 'é', 'x']) [⟨0, 2⟩, ⟨2, 2⟩]
      ⟨['é', '(', 'x', ')', 'é', 'x'], 2⟩ ∧
    Span.Chained ['é', '(', 'x', ')', 'é', 'x']
      (ReadsOver Nested.grammar (rule ()) ['é', '(', 'x', ')', 'é', 'x']) 2
      [⟨5, 7⟩, ⟨8, 8⟩] 8 ∧
    Span.slice? ⟨0, 2⟩ ['é', '(', 'x', ')', 'é', 'x'] = some ['é'] := by
  have hc : (Cursor.start ['é', '(', 'x', ')', 'é', 'x']).OnBoundary := Text.isBoundary_zero _
  obtain ⟨hsequence, hmany, hlist, hleaf⟩ :=
    spans_tile (α := Text) (β := Nat) Nested.grammar hc
  refine ⟨hc, ?_, ?_, ?_, ?_⟩
  · exact hsequence [takeUntil (rule ()), lookAhead (literal ['(']), literal ['(']] _ _ []
      ⟨3, rfl⟩
  · exact (hmany (takeUntil (rule ())) _ _ _ ⟨3, rfl⟩).1
  · exact (hlist (takeUntil (rule ())) (rule ()) _ _ _ _ ⟨3, rfl⟩).2.2
  · exact hleaf (takeUntil (rule ())) _ _ _ [] (.takeUntil _) ⟨3, rfl⟩

end Parser
end TextGrammar
