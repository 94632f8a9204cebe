/-
Literals one behind the other.

A list of literals reads the texts in order, so it reads what the literal of all the texts together
reads.  The two differ in what they report.  The list has moved past the texts that stand in their
places, and misses the first one that does not; the single literal misses all of them where it
began.
-/
import TextGrammar.Proofs.Sequencing

namespace TextGrammar

variable {texts : List Text} {s r : Text} {k : Nat} {c : Cursor}

/-- The texts in front of number `k`, counted from zero, stand at the beginning of `r` one behind
the other, and with number `k` they do not. -/
structure FirstMismatch (texts : List Text) (r : Text) (k : Nat) : Prop where
  not_prefix : ¬ (texts.take (k + 1)).flatten <+: r
  isPrefix {j : Nat} : j < k → (texts.take (j + 1)).flatten <+: r

namespace FirstMismatch

theorem head (h : ¬ s <+: r) (texts : List Text) : FirstMismatch (s :: texts) r 0 where
  not_prefix := by
    rwa [List.take_succ_cons, List.take_zero, List.flatten_cons, List.flatten_nil, List.append_nil]
  isPrefix hlt := absurd hlt (Nat.not_lt_zero _)

theorem tail (h : FirstMismatch texts r k) (s : Text) :
    FirstMismatch (s :: texts) (s ++ r) (k + 1) where
  not_prefix := by
    rw [List.take_succ_cons, List.flatten_cons, List.prefix_append_right_inj]
    exact h.not_prefix
  isPrefix {j} hlt := by
    rw [List.take_succ_cons, List.flatten_cons, List.prefix_append_right_inj]
    cases j with
    | zero => exact List.nil_prefix
    | succ j => exact h.isPrefix (Nat.lt_of_succ_lt_succ hlt)

/-- What stands in front of the text that is missed. -/
theorem take_isPrefix (h : FirstMismatch texts r k) : (texts.take k).flatten <+: r := by
  cases k with
  | zero => exact List.nil_prefix
  | succ k => exact h.isPrefix (Nat.lt_succ_self k)

end FirstMismatch

/-- If the texts do not stand in a row, there is a first one that is not in its place. -/
theorem exists_firstMismatch (h : ¬ texts.flatten <+: r) :
    ∃ k s, texts[k]? = some s ∧ FirstMismatch texts r k := by
  induction texts generalizing r with
  | nil => exact absurd List.nil_prefix h
  | cons s texts ih =>
    by_cases hs : s <+: r
    · obtain ⟨r, rfl⟩ := hs
      rw [List.flatten_cons, List.prefix_append_right_inj] at h
      obtain ⟨k, s', hk, hmismatch⟩ := ih h
      exact ⟨k + 1, s', hk, hmismatch.tail s⟩
    · exact ⟨0, s, rfl, .head hs texts⟩

namespace Recogniser

open Run

variable {α : Type} {p : Recogniser α} {ps : List (Recogniser α)} {s' : Text} {v : α}
  {vs : List α}

theorem Takes.sequence_cons (hp : p.Takes s v (s' ++ r)) (hps : (sequence ps).Takes s' vs r) :
    (sequence (p :: ps)).Takes (s ++ s') (v :: vs) r :=
  hp.andThen (f := fun v next => (sequence ps next).andThen fun vs last => success (v :: vs) last)
    (hps.withValue (v :: ·))

theorem takes_literals (texts : List Text) (r : Text) :
    (sequence (texts.map literal)).Takes texts.flatten texts r := by
  induction texts with
  | nil => exact takes_succeed [] r
  | cons s texts ih => exact (takes_literal s (texts.flatten ++ r)).sequence_cons ih

/-- The texts in front of the first one that is missed are read, and then it fails. -/
theorem literals_eq_failAt (hc : c.rest? = some r) (hk : texts[k]? = some s)
    (h : FirstMismatch texts r k) :
    sequence (texts.map literal) c =
      failAt (c.advance (Text.size (texts.take k).flatten)) (.expectedLiteral s) := by
  obtain ⟨u, rfl⟩ := h.take_isPrefix
  have hs : ¬ s <+: u := by
    have hmissed := h.not_prefix
    rwa [List.take_add_one, hk, Option.toList_some, List.flatten_append, List.flatten_singleton,
      List.prefix_append_right_inj] at hmissed
  have hsplit : texts.map literal =
      (texts.take k).map literal ++ literal s :: (texts.drop (k + 1)).map literal := by
    have hdrop := List.drop_eq_getElem?_toList_append (l := texts) (i := k)
    rw [hk, Option.toList_some, List.singleton_append] at hdrop
    rw [← List.map_cons, ← List.map_append, ← hdrop, List.take_append_drop]
  have hfail := literal_eq_failAt (Cursor.rest?_advance hc) hs
  rw [hsplit, sequence_append]
  show (sequence ((texts.take k).map literal) c).andThen _ = _
  rw [takes_literals _ u c hc, andThen_success, sequence, hfail]
  rfl

theorem literals_of_isPrefix (hc : c.rest? = some r) (h : texts.flatten <+: r) :
    ∃ next : Cursor, next = ⟨c.text, c.offset + Text.size texts.flatten⟩ ∧
      next = c.advance (Text.size texts.flatten) ∧ next.OnBoundary ∧
      sequence (texts.map literal) c = success texts next ∧
      literal texts.flatten c = success texts.flatten next := by
  obtain ⟨u, rfl⟩ := h
  exact ⟨_, Cursor.advance_eq_of_rest? hc, rfl, (Cursor.advance_of_rest? hc).1.onBoundary,
    takes_literals texts u c hc, takes_literal texts.flatten u c hc⟩

theorem literals_of_not_isPrefix (hc : c.rest? = some r) (h : ¬ texts.flatten <+: r) :
    ∃ k s place, texts[k]? = some s ∧ FirstMismatch texts r k ∧
      place = Location.mk c.text (c.offset + Text.size (texts.take k).flatten) ∧
      c.Reaches place ∧
      sequence (texts.map literal) c = failure ⟨.expectedLiteral s, place⟩ := by
  obtain ⟨k, s, hk, hfirst⟩ := exists_firstMismatch h
  have hlist := literals_eq_failAt hc hk hfirst
  obtain ⟨u, rfl⟩ := hfirst.take_isPrefix
  exact ⟨k, s, _, hk, hfirst, congrArg Cursor.location (Cursor.advance_eq_of_rest? hc),
    (Cursor.advance_of_rest? hc).1, hlist⟩

end Recogniser

namespace Parser

variable {S : Signature} {call : (r : S.Rule) → Recogniser (S.Result r)}

theorem denote_inOrder_literals (texts : List Text) :
    denote call (inOrder (texts.map literal)) = Recogniser.sequence (texts.map .literal) := by
  rw [denote_inOrder, List.map_map]
  rfl

/-- A list of literals reads its texts one behind the other, so it succeeds exactly where the
literal of all of them together does, and ends at the same place.  The bytes of all texts lead
there: the end of the text is not in the way.  Where the literal of all fails it reports the place
where it began; the list reports the first text that does not stand behind those in front of it,
at the place where it should stand. -/
theorem inOrder_literals_read_flatten (g : Grammar S) (depth : Nat) (texts : List Text)
    (hc : c.OnBoundary) :
    ((∃ ss next log, parseWithin g depth (inOrder (texts.map literal)) c =
        .ok (.success ss next, log)) ↔
      ∃ s next log, parseWithin g depth (literal texts.flatten) c =
        .ok (.success s next, log)) ∧
    ∃ r, c.rest? = some r ∧
      (texts.flatten <+: r → ∃ next : Cursor,
        next = ⟨c.text, c.offset + Text.size texts.flatten⟩ ∧
        next = c.advance (Text.size texts.flatten) ∧ next.OnBoundary ∧
        parseWithin g depth (inOrder (texts.map literal)) c = Run.success texts next ∧
        parseWithin g depth (literal texts.flatten) c = Run.success texts.flatten next) ∧
      (¬ texts.flatten <+: r → ∃ k s place, texts[k]? = some s ∧ FirstMismatch texts r k ∧
        place = Location.mk c.text (c.offset + Text.size (texts.take k).flatten) ∧
        c.Reaches place ∧
        parseWithin g depth (inOrder (texts.map literal)) c =
          Run.failure ⟨.expectedLiteral s, place⟩ ∧
        parseWithin g depth (literal texts.flatten) c =
          Run.failAt c (.expectedLiteral texts.flatten)) := by
  obtain ⟨call, hcall⟩ := exists_parseWithin_eq_denote g depth
  simp only [hcall]
  rw [denote_inOrder_literals]
  obtain ⟨r, hr⟩ := hc.exists_rest?
  by_cases hall : texts.flatten <+: r
  · obtain ⟨next, hnext, hadvance, hboundary, hlist, hone⟩ :=
      Recogniser.literals_of_isPrefix hr hall
    exact ⟨⟨fun _ => ⟨_, _, _, hone⟩, fun _ => ⟨_, _, _, hlist⟩⟩, r, hr,
      fun _ => ⟨next, hnext, hadvance, hboundary, hlist, hone⟩, fun hnot => absurd hall hnot⟩
  · have hone := Recogniser.literal_eq_failAt hr hall
    obtain ⟨k, s, place, hk, hfirst, hplace, hreach, hlist⟩ :=
      Recogniser.literals_of_not_isPrefix hr hall
    refine ⟨⟨?_, ?_⟩, r, hr, fun h => absurd h hall, fun _ =>
      ⟨k, s, place, hk, hfirst, hplace, hreach, hlist, hone⟩⟩
    · rintro ⟨ss, next, log, hsuccess⟩
      cases hlist.symm.trans hsuccess
    · rintro ⟨s', next, log, hsuccess⟩
      cases hone.symm.trans hsuccess

/-- Texts of two bytes with the same first byte, and an empty one between them.  The third is not
in its place, and is reported there by the list and where all began by the single literal. -/
theorem accents_missed :
    (Cursor.mk ['a', 'é', 'é', 'x'] 1).OnBoundary ∧
    parseWithin Nested.grammar 0 (inOrder ([['é'], [], ['è'], ['x']].map literal))
        ⟨['a', 'é', 'é', 'x'], 1⟩ =
      Run.failure ⟨.expectedLiteral ['è'], ⟨['a', 'é', 'é', 'x'], 3⟩⟩ ∧
    parseWithin Nested.grammar 0 (literal ['é', 'è', 'x']) ⟨['a', 'é', 'é', 'x'], 1⟩ =
      Run.failure ⟨.expectedLiteral ['é', 'è', 'x'], ⟨['a', 'é', 'é', 'x'], 1⟩⟩ := by
  have hc : (Cursor.mk ['a', 'é', 'é', 'x'] 1).OnBoundary := ⟨['a'], ['é', 'é', 'x'], rfl, rfl⟩
  obtain ⟨-, r, hr, -, hmissed⟩ :=
    inOrder_literals_read_flatten Nested.grammar 0 [['é'], [], ['è'], ['x']] hc
  obtain rfl : ['é', 'é', 'x'] = r := Option.some.inj hr
  obtain ⟨k, s, place, hk, hfirst, rfl, -, hlist, hone⟩ := hmissed (by decide)
  obtain hlt | rfl | hgt := Nat.lt_trichotomy k 2
  · -- The texts in front of the third one do stand there.
    obtain rfl | rfl : k = 0 ∨ k = 1 := by omega
    · exact absurd (by decide) hfirst.not_prefix
    · exact absurd (by decide) hfirst.not_prefix
  · cases hk
    exact ⟨hc, hlist, hone⟩
  · exact absurd (hfirst.isPrefix hgt) (by decide)

end Parser
end TextGrammar
