/-
Separated lists as repetitions.

A list is an item and then a repetition of what a separator and another item make up.  The
loop behind the first item is that of a repetition, but for the record with which it ends, and
so a list reads what the repetition reads, to the same place and with the same records but for
that one.
-/
import TextGrammar.Proofs.Log
import TextGrammar.Proofs.Trail
import TextGrammar.Proofs.Wording

namespace TextGrammar

variable {α β : Type}

/-- The record with the end of a list read as that of a repetition. -/
def Record.asRepetition : Record → Record
  | listEnded n => .repetitionEnded n
  | r => r

/-- The same of the texts, of which only those that end a list are read in another way. -/
theorem Record.text_asRepetition {r : Record} (hr : r.isOwn = true) :
    (∀ n : Nat, r.text = s!"zero-width separator and item at offset {n} end list" →
      r.asRepetition.text = s!"zero-width match at offset {n} ends repetition") ∧
    ((∀ n : Nat, r.text ≠ s!"zero-width separator and item at offset {n} end list") →
      r.asRepetition.text = r.text) := by
  have hlist := (text_eq_iff hr).2.1
  constructor
  · intro n htext
    rw [(hlist n).mp htext]
    exact ((text_eq_iff rfl).1 n).mpr rfl
  · intro hother
    cases r with
    | listEnded n => exact absurd ((hlist n).mpr rfl) (hother n)
    | repetitionEnded n | succeeded a b | failed e a m | tapped name a ending | noted t => rfl

namespace Run

variable {r s : Run α} {k : Record → Record}

/-- The run with its records read in another way. -/
def relog (k : Record → Record) : Run α → Run α
  | .ok (o, log) => .ok (o, log.map k)
  | .error b => .error b

theorem relog_after (k : Record → Record) (log : List Record) (r : Run α) :
    (r.after log).relog k = (r.relog k).after (log.map k) := by
  rcases r with b | ⟨o, log'⟩
  · rfl
  · simp only [after, relog, List.map_append]

theorem relog_resolve (k : Record → Record) (r : Run α) (f : α → Cursor → Run β)
    (g : Failure → Run β) :
    (r.resolve f g).relog k =
      (r.relog k).resolve (fun v c => (f v c).relog k) (fun e => (g e).relog k) := by
  rcases r with b | ⟨o, log⟩
  · rfl
  · cases o with
    | success v c => exact relog_after k log (f v c)
    | failure e => exact relog_after k log (g e)

/-- What is read in another way are the records only. -/
theorem exists_of_relog_eq {o : Outcome α} {log : List Record} (h : r.relog k = s.relog k)
    (hr : r = .ok (o, log)) : ∃ log', s = .ok (o, log') := by
  subst hr
  rcases s with b | ⟨o', log'⟩
  · cases h
  · have hout : o = o' := congrArg Prod.fst (Except.ok.inj h)
    rw [hout]
    exact ⟨log', rfl⟩

/-- The run does not end with a failure. -/
def NeverFails (r : Run α) : Prop := ∀ f log, r ≠ .ok (.failure f, log)

theorem neverFails_success (v : α) (c : Cursor) : (success v c).NeverFails := by
  intro f log h
  cases h

theorem neverFails_resolve {f : α → Cursor → Run β} {g : Failure → Run β}
    (hf : ∀ v c, (f v c).NeverFails) (hg : ∀ e, (g e).NeverFails) :
    (r.resolve f g).NeverFails := by
  intro e log h
  obtain ⟨v, next, l, m, -, hv, -⟩ | ⟨e', l, m, -, he, -⟩ := resolve_eq_ok_iff.mp h
  · exact hf v next e m hv
  · exact hg e' e m he

theorem NeverFails.andThen {f : α → Cursor → Run β} (h : r.NeverFails)
    (hf : ∀ v c, (f v c).NeverFails) : (r.andThen f).NeverFails := by
  intro e log hrun
  obtain ⟨v, next, l, m, -, hv, -⟩ | ⟨e', l, m, he, -, -⟩ := resolve_eq_ok_iff.mp hrun
  · exact hf v next e m hv
  · exact h e' l he

/-- What follows a failure does not matter then. -/
theorem NeverFails.resolve_congr (h : r.NeverFails) (f : α → Cursor → Run β)
    (g g' : Failure → Run β) : r.resolve f g = r.resolve f g' := by
  rcases r with b | ⟨o, log⟩
  · rfl
  · cases o with
    | success v c => rfl
    | failure e => exact absurd rfl (h e log)

end Run

namespace Recogniser

open Run

variable {item : Recogniser α} {ended ended' : Nat → Record} {k : Record → Record}

theorem neverFails_loop (ended : Nat → Record) (item : Recogniser α) (fuel : Nat) (c : Cursor) :
    (loop ended item fuel c).NeverFails := by
  induction fuel generalizing c with
  | zero =>
    intro f log h
    cases h
  | succ fuel ih =>
    refine neverFails_resolve (fun v next => ?_) fun _ => neverFails_success [] c
    split
    · intro f log h
      cases h
    · exact (ih next).andThen fun vs last => neverFails_success (v :: vs) last

/-- Loops that differ in how they record their end only. -/
theorem relog_loop (h : ∀ n, k (ended n) = k (ended' n)) (fuel : Nat) (c : Cursor) :
    (loop ended item fuel c).relog k = (loop ended' item fuel c).relog k := by
  induction fuel generalizing c with
  | zero => rfl
  | succ fuel ih =>
    rw [loop_succ, loop_succ, relog_resolve, relog_resolve]
    congr 1
    funext v next
    rw [round, round]
    by_cases hstay : next.offset = c.offset
    · rw [if_pos hstay, if_pos hstay, relog_after, relog_after, List.map_singleton,
        List.map_singleton, h]
    · rw [if_neg hstay, if_neg hstay, andThen, andThen, relog_resolve, relog_resolve, ih]

/-- A first item and a loop over what is behind it, or nothing. -/
def items (ended : Nat → Record) (first more : Recogniser α) : Recogniser (List α) := fun c =>
  (first c).resolve
    (fun v next => (exhaust ended more next).andThen fun vs last => success (v :: vs) last)
    (fun _ => success [] c)

theorem sepBy_eq_items (p : Recogniser α) (q : Recogniser β) :
    sepBy p q = items .listEnded p (separated p q) :=
  funext (sepBy_eq_resolve p q)

theorem neverFails_items (ended : Nat → Record) (first more : Recogniser α) (c : Cursor) :
    (items ended first more c).NeverFails := by
  refine neverFails_resolve (fun v next => ?_) fun _ => neverFails_success [] c
  exact (neverFails_loop ended more _ next).andThen fun vs last => neverFails_success (v :: vs) last

theorem relog_items (h : ∀ n, k (ended n) = k (ended' n)) (first more : Recogniser α)
    (c : Cursor) : (items ended first more c).relog k = (items ended' first more c).relog k := by
  rw [items, items, relog_resolve, relog_resolve]
  congr 1
  funext v next
  rw [andThen, andThen, relog_resolve, relog_resolve, exhaust, exhaust, relog_loop h]

end Recogniser

namespace Parser

open Recogniser

variable {S : Signature} {g : Grammar S} {p : Parser S α} {sep : Parser S β} {c last : Cursor}
  {vs : List α} {log : List Record}

/-- A list by way of a repetition: an item and then pairs of a separator and an item, and the
empty list if there is no item. -/
def listed (p : Parser S α) (sep : Parser S β) : Parser S (List α) :=
  map (optional (chain p fun v => map (many (keepRight sep p)) (v :: ·))) (·.getD [])

theorem parseWithin_sepBy (g : Grammar S) (depth : Nat) (p : Parser S α) (sep : Parser S β) :
    parseWithin g depth (sepBy p sep) = items .listEnded (parseWithin g depth p)
      (parseWithin g depth (keepRight sep p)) := by
  cases depth <;> exact sepBy_eq_items _ _

theorem denote_listed (call : (r : S.Rule) → Recogniser (S.Result r)) (p : Parser S α)
    (sep : Parser S β) :
    denote call (listed p sep) =
      items .repetitionEnded (denote call p) (denote call (keepRight sep p)) := by
  funext c
  show (((denote call p c).andThen fun v first =>
    (Recogniser.many (denote call (keepRight sep p)) first).andThen fun vs last =>
      Run.success (v :: vs) last).resolve (fun vs last => Run.success (some vs) last)
      fun _ => Run.success none c).andThen (fun found last => Run.success (found.getD []) last) = _
  simp only [Run.andThen, Run.resolve_resolve, Run.resolve_success, Run.resolve_failure,
    Option.getD_some, Option.getD_none, many_eq_exhaust, items]
  congr 1
  funext v first
  -- On the left a failure of the repetition would be taken for a list without items.
  exact (neverFails_loop _ _ _ first).resolve_congr _ _ _

theorem parseWithin_listed (g : Grammar S) (depth : Nat) (p : Parser S α) (sep : Parser S β) :
    parseWithin g depth (listed p sep) = items .repetitionEnded (parseWithin g depth p)
      (parseWithin g depth (keepRight sep p)) := by
  cases depth <;> exact denote_listed _ p sep

theorem neverFails_sepBy (g : Grammar S) (depth : Nat) (p : Parser S α) (sep : Parser S β)
    (c : Cursor) : (parseWithin g depth (sepBy p sep) c).NeverFails := by
  rw [parseWithin_sepBy]
  exact neverFails_items _ _ _ c

theorem relog_sepBy (g : Grammar S) (depth : Nat) (p : Parser S α) (sep : Parser S β)
    (c : Cursor) :
    (parseWithin g depth (sepBy p sep) c).relog Record.asRepetition =
      (parseWithin g depth (listed p sep) c).relog Record.asRepetition := by
  have hended (n : Nat) :
      (Record.listEnded n).asRepetition = (Record.repetitionEnded n).asRepetition := rfl
  rw [parseWithin_sepBy, parseWithin_listed, relog_items hended]

/-! ## What a list has read -/

theorem Returns.listed_nil {f : Failure} (h : Returns g p c (.failure f, log)) :
    Returns g (listed p sep) c (.success [] c, log) := by
  obtain ⟨depth, hrun⟩ := h
  refine ⟨depth, ?_⟩
  rw [parseWithin_listed, items, Run.resolve_of_failure hrun, Run.after_success]

theorem Returns.listed_cons {v : α} {first : Cursor} {log' : List Record}
    (h : Returns g p c (.success v first, log))
    (hmany : Returns g (many (keepRight sep p)) first (.success vs last, log')) :
    Returns g (listed p sep) c (.success (v :: vs) last, log ++ log') := by
  obtain ⟨depth, hrun, hrun'⟩ := h.exists_common_depth hmany
  refine ⟨depth, ?_⟩
  rw [parseWithin_many, many_eq_exhaust] at hrun'
  rw [parseWithin_listed, items, Run.resolve_of_success hrun, Run.andThen_of_success hrun',
    Run.after_after, Run.after_success]

/-- A list is empty and has not moved, or is an item and what a repetition of separators and
items has read behind it. -/
theorem Returns.of_listed (h : Returns g (listed p sep) c (.success vs last, log)) :
    (vs = [] ∧ last = c) ∨
    ∃ v first vs' l l', vs = v :: vs' ∧ Returns g p c (.success v first, l) ∧
      Returns g (many (keepRight sep p)) first (.success vs' last, l') := by
  obtain ⟨depth, hrun⟩ := h
  rw [parseWithin_listed] at hrun
  obtain ⟨v, first, l, m, hp, hmore, -⟩ | ⟨f, l, m, hp, hnil, -⟩ :=
    Run.resolve_eq_ok_iff.mp hrun
  · obtain ⟨vs', last', l', m', hmany, hend, -⟩ | ⟨f, l', m', hmany, hend, -⟩ :=
      Run.resolve_eq_ok_iff.mp hmore
    · cases hend
      rw [← many_eq_exhaust, ← parseWithin_many] at hmany
      exact .inr ⟨v, first, vs', l, l', rfl, ⟨depth, hp⟩, ⟨depth, hmany⟩⟩
    · cases hend
  · cases hnil
    exact .inl ⟨rfl, rfl⟩

/-- The outcomes of a list are those of the repetition. -/
theorem returns_sepBy_iff {o : Outcome (List α)} :
    (∃ log, Returns g (sepBy p sep) c (o, log)) ↔ ∃ log, Returns g (listed p sep) c (o, log) := by
  constructor
  · intro h
    obtain ⟨log, depth, hrun⟩ := h
    obtain ⟨log', hrun'⟩ := Run.exists_of_relog_eq (relog_sepBy g depth p sep c) hrun
    exact ⟨log', depth, hrun'⟩
  · intro h
    obtain ⟨log, depth, hrun⟩ := h
    obtain ⟨log', hrun'⟩ := Run.exists_of_relog_eq (relog_sepBy g depth p sep c).symm hrun
    exact ⟨log', depth, hrun'⟩

/-- Behind a list that is not empty, a separator with an item behind it fails, or consumes
nothing. -/
theorem Returns.sepBy_stops (h : Returns g (sepBy p sep) c (.success vs last, log))
    (hc : c.OnBoundary) (hne : vs ≠ []) : ∃ extra, Stops g (keepRight sep p) last extra := by
  obtain ⟨log', hlisted⟩ := returns_sepBy_iff.mp ⟨log, h⟩
  obtain ⟨hnil, -⟩ | ⟨v, first, vs', l, l', -, hp, hmany⟩ := hlisted.of_listed
  · exact absurd hnil hne
  · obtain ⟨steps, extra, -, hstop, heq⟩ := hmany.exists_trail (hp.reaches hc).onBoundary
    obtain ⟨-, rfl⟩ := Outcome.success.inj heq
    exact ⟨extra, hstop⟩

/-- There are two values at most for which a list has consumed nothing: the first one, and the
last one with the separator in front of it. -/
theorem Returns.sepBy_exists_between (h : Returns g (sepBy p sep) c (.success vs last, log))
    (hc : c.OnBoundary) :
    ∃ t r, c.rest? = some (t ++ r) ∧ last.rest? = some r ∧ vs.length ≤ t.length + 2 := by
  obtain ⟨log', hlisted⟩ := returns_sepBy_iff.mp ⟨log, h⟩
  obtain ⟨rfl, rfl⟩ | ⟨v, first, vs', l, l', rfl, hp, hmany⟩ := hlisted.of_listed
  · obtain ⟨r, hr⟩ := hc.exists_rest?
    exact ⟨[], r, hr, hr, Nat.zero_le _⟩
  · have hreach := hp.reaches hc
    obtain ⟨t, r, hrest, hrest', -⟩ := hreach.exists_between hc
    obtain ⟨u, r', hnext, hend, hle⟩ := hmany.many_exists_between hreach.onBoundary
    obtain rfl : u ++ r' = r := Option.some.inj (hnext.symm.trans hrest')
    refine ⟨t ++ u, r', ?_, hend, ?_⟩
    · rw [hrest, List.append_assoc]
    · rw [List.length_cons, List.length_append]
      omega

/-- A list returns if its first item does, and pairs of a separator and an item do wherever
they lead from there. -/
theorem exists_returns_sepBy (hc : c.OnBoundary) (hfirst : ∃ x, Returns g p c x)
    (hmore : ∀ v first log steps, Returns g p c (.success v first, log) →
      Trail g (keepRight sep p) first steps →
      ∃ x, Returns g (keepRight sep p) (trailEnd first steps) x) :
    ∃ vs last log, Returns g (sepBy p sep) c (.success vs last, log) := by
  obtain ⟨⟨o, log⟩, hp⟩ := hfirst
  cases o with
  | failure f =>
    obtain ⟨log', h⟩ := returns_sepBy_iff.mpr ⟨log, hp.listed_nil⟩
    exact ⟨[], c, log', h⟩
  | success v first =>
    have hfirst := (hp.reaches hc).onBoundary
    obtain ⟨steps, extra, htrail, hstop⟩ :=
      exists_trail_stops hfirst fun steps htrail => hmore v first log steps hp htrail
    obtain ⟨log', hmany⟩ := htrail.many hfirst hstop
    obtain ⟨log'', h⟩ := returns_sepBy_iff.mpr ⟨_, hp.listed_cons hmany⟩
    exact ⟨_, _, log'', h⟩

/-- A separated list never fails.  It has the value, the place and the records of an item and
a repetition of separators and items behind it, when the record that ends a list is read as the
one that ends a repetition, and so is its text.  So behind a list that is not empty there is no
further item, and there are at most two values more than characters consumed. -/
theorem sepBy_reads_as_many (g : Grammar S) (p : Parser S α) (sep : Parser S β)
    (hc : c.OnBoundary) :
    (∀ depth, (parseWithin g depth (sepBy p sep) c).relog Record.asRepetition =
      (parseWithin g depth
        (map (optional (chain p fun v => map (many (keepRight sep p)) (v :: ·))) (·.getD []))
        c).relog Record.asRepetition) ∧
    (∀ f log, ¬ Returns g (sepBy p sep) c (.failure f, log)) ∧
    (∀ vs last log, Returns g (sepBy p sep) c (.success vs last, log) →
      (vs ≠ [] → ∃ extra, Stops g (keepRight sep p) last extra) ∧
      ∃ t r, c.rest? = some (t ++ r) ∧ last.rest? = some r ∧ vs.length ≤ t.length + 2) ∧
    ((∃ x, Returns g p c x) →
      (∀ v first log steps, Returns g p c (.success v first, log) →
        Trail g (keepRight sep p) first steps →
        ∃ x, Returns g (keepRight sep p) (trailEnd first steps) x) →
      ∃ vs last log, Returns g (sepBy p sep) c (.success vs last, log)) ∧
    ∀ r : Record, r.isOwn = true →
      (∀ n : Nat, r.text = s!"zero-width separator and item at offset {n} end list" →
        r.asRepetition.text = s!"zero-width match at offset {n} ends repetition") ∧
      ((∀ n : Nat, r.text ≠ s!"zero-width separator and item at offset {n} end list") →
        r.asRepetition.text = r.text) := by
  refine ⟨fun depth => relog_sepBy g depth p sep c, ?_, ?_, exists_returns_sepBy hc,
    fun r hr => Record.text_asRepetition hr⟩
  · intro f log h
    obtain ⟨depth, hrun⟩ := h
    exact neverFails_sepBy g depth p sep c f log hrun
  · intro vs last log h
    exact ⟨h.sepBy_stops hc, h.sepBy_exists_between hc⟩

/-- Two nests and then neither a comma nor a nest, which is a pair that consumes nothing. -/
theorem nested_reads_as_many :
    (Cursor.start ['x', ',', '(', 'x', ')', 'é']).OnBoundary ∧
    Returns Nested.grammar (sepBy (optional (rule ())) (optional (literal [','])))
      (.start ['x', ',', '(', 'x', ')', 'é'])
      (.success [some 0, some 1, none] ⟨['x', ',', '(', 'x', ')', 'é'], 5⟩, [.listEnded 5]) ∧
    (parseWithin Nested.grammar 2
      (map (optional (chain (optional (rule ())) fun v =>
        map (many (keepRight (optional (literal [','])) (optional (rule ())))) (v :: ·)))
        (·.getD [])) (.start ['x', ',', '(', 'x', ')', 'é'])).relog Record.asRepetition =
      .ok (.success [some 0, some 1, none] ⟨['x', ',', '(', 'x', ')', 'é'], 5⟩,
        [.repetitionEnded 5]) ∧
    ∃ extra, Stops Nested.grammar (keepRight (optional (literal [','])) (optional (rule ())))
      ⟨['x', ',', '(', 'x', ')', 'é'], 5⟩ extra := by
  have hc : (Cursor.start ['x', ',', '(', 'x', ')', 'é']).OnBoundary := Text.isBoundary_zero _
  have hlist : Returns Nested.grammar (sepBy (optional (rule ())) (optional (literal [','])))
      (.start ['x', ',', '(', 'x', ')', 'é'])
      (.success [some 0, some 1, none] ⟨['x', ',', '(', 'x', ')', 'é'], 5⟩, [.listEnded 5]) :=
    ⟨2, rfl⟩
  obtain ⟨hruns, -, hread, -⟩ := sepBy_reads_as_many Nested.grammar (optional (rule ()))
    (optional (literal [','])) hc
  exact ⟨hc, hlist, (hruns 2).symm, (hread _ _ _ hlist).1 (List.cons_ne_nil _ _)⟩

end Parser
end TextGrammar
