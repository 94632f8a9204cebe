/-
Which records a run makes.

An itemised parser has a tap on each repetition and each list, and on every item and every
separator in them.  `Accounted` says of the log of such a parser how each of its loops came to
its end, and which record the loop made behind those of its parts: one if the last item was
collected without moving, and none otherwise.  Nothing else makes a record.  This includes
loops in attempts that came to nothing, as their records stay in the log.
-/
import TextGrammar.Proofs.Log
import TextGrammar.Proofs.Nested
import TextGrammar.Proofs.Watch
import TextGrammar.Proofs.Wording

namespace TextGrammar

variable {S : Signature} {α β : Type}

mutual
/-- Logs in which every repetition and every list is accounted for, with the tap that closes
it. -/
inductive Accounted : List Record → Prop where
  | nil : Accounted []
  | append {l m : List Record} : Accounted l → Accounted m → Accounted (l ++ m)
  | repetition {a b : Nat} {l : List Record} :
    Rounds a b l → Accounted (l ++ [.tapped "repetition" a (.success b)])
  /-- A repetition that asked for a match and had none. -/
  | unmatched {a x : Nat} {l : List Record} : Accounted l →
    Accounted (l ++ [.tapped "item" a (.failure x)] ++ [.tapped "repetition" a (.failure a)])
  | list {a i b : Nat} {l m : List Record} : Accounted l → Pairs i b m →
    Accounted (l ++ [.tapped "item" a (.success i)] ++ m ++ [.tapped "list" a (.success b)])
  /-- A list without a first item. -/
  | emptyList {a x : Nat} {l : List Record} : Accounted l →
    Accounted (l ++ [.tapped "item" a (.failure x)] ++ [.tapped "list" a (.success a)])

/-- The items of a repetition that begins at the first offset and ends at the second.  The
last one fails, or stays where it is and is recorded; all others move. -/
inductive Rounds : Nat → Nat → List Record → Prop where
  | failed {a x : Nat} {l : List Record} : Accounted l →
    Rounds a a (l ++ [.tapped "item" a (.failure x)])
  | stayed {a : Nat} {l : List Record} : Accounted l →
    Rounds a a (l ++ [.tapped "item" a (.success a)] ++ [.repetitionEnded a])
  | moved {a i b : Nat} {l m : List Record} : Accounted l → i ≠ a → Rounds i b m →
    Rounds a b (l ++ [.tapped "item" a (.success i)] ++ m)

/-- The separators and items of a list behind its first item.  The last pair fails in one of
its parts, or stays where it is and is recorded; all others move. -/
inductive Pairs : Nat → Nat → List Record → Prop where
  | noSeparator {a x : Nat} {l : List Record} : Accounted l →
    Pairs a a (l ++ [.tapped "separator" a (.failure x)])
  | noItem {a i x : Nat} {l m : List Record} : Accounted l → Accounted m →
    Pairs a a (l ++ [.tapped "separator" a (.success i)] ++ m ++ [.tapped "item" i (.failure x)])
  | stayed {a i : Nat} {l m : List Record} : Accounted l → Accounted m →
    Pairs a a (l ++ [.tapped "separator" a (.success i)] ++ m ++
      [.tapped "item" i (.success a)] ++ [.listEnded a])
  | moved {a i j b : Nat} {l m k : List Record} : Accounted l → Accounted m → j ≠ a →
    Pairs j b k →
    Pairs a b (l ++ [.tapped "separator" a (.success i)] ++ m ++
      [.tapped "item" i (.success j)] ++ k)
end

theorem joins_accounted : Joins Accounted := ⟨.nil, .append⟩

/-! ## Loops whose parts are tapped -/

namespace Recogniser

open Run

/-- As `p`, with a record of where it began and how it ended. -/
def tapped (name : String) (p : Recogniser α) : Recogniser α := fun c =>
  (p c).record fun o => .tapped name c.offset o.ending

variable {p : Recogniser α} {q : Recogniser β} {c next : Cursor} {o : Outcome (List α)} {v : α}
  {log : List Record}

/-- What a round has done when it returns: it ended the loop with a record, or the loop went
on. -/
theorem of_round_eq_ok {ended : Nat → Record} {fuel : Nat}
    (h : round ended p fuel c v next = .ok (o, log)) :
    (next.offset = c.offset ∧ o = .success [v] c ∧ log = [ended c.offset]) ∨
    (next.offset ≠ c.offset ∧ ∃ o', loop ended p fuel next = .ok (o', log) ∧
      ∀ vs last, o' = .success vs last → o = .success (v :: vs) last) := by
  rw [round] at h
  by_cases hstay : next.offset = c.offset
  · rw [if_pos hstay] at h
    cases h
    exact .inl ⟨hstay, rfl, rfl⟩
  · rw [if_neg hstay] at h
    obtain ⟨vs, last, l, m, hloop, hend, rfl⟩ | ⟨e, l, m, hloop, hend, rfl⟩ :=
      resolve_eq_ok_iff.mp h
    · cases hend
      refine .inr ⟨hstay, _, by rw [List.append_nil]; exact hloop, fun vs' last' heq => ?_⟩
      cases heq
      rfl
    · cases hend
      refine .inr ⟨hstay, _, by rw [List.append_nil]; exact hloop, fun vs' last' heq => ?_⟩
      cases heq

/-- What follows an item is a repetition in rounds, if the loop from there on is. -/
theorem rounds_round {fuel : Nat} {l : List Record} (hl : Accounted l)
    (hloop : ∀ o m, loop .repetitionEnded (tapped "item" p) fuel next = .ok (o, m) →
      ∃ vs last, o = .success vs last ∧ Rounds next.offset last.offset m)
    (h : round .repetitionEnded (tapped "item" p) fuel c v next = .ok (o, log)) :
    ∃ vs last, o = .success vs last ∧
      Rounds c.offset last.offset
        (l ++ [.tapped "item" c.offset (.success next.offset)] ++ log) := by
  obtain ⟨hstay, rfl, rfl⟩ | ⟨hmove, o', hrest, hend⟩ := of_round_eq_ok h
  · rw [hstay]
    exact ⟨[v], c, rfl, .stayed hl⟩
  · obtain ⟨vs, last, rfl, hrounds⟩ := hloop o' log hrest
    exact ⟨v :: vs, last, hend vs last rfl, .moved hl hmove hrounds⟩

/-- A loop over tapped items never fails, and its log tells how it ended. -/
theorem rounds_loop (hp : LogsIn Accounted p) (fuel : Nat)
    (h : loop .repetitionEnded (tapped "item" p) fuel c = .ok (o, log)) :
    ∃ vs last, o = .success vs last ∧ Rounds c.offset last.offset log := by
  induction fuel generalizing c o log with
  | zero => cases h
  | succ fuel ih =>
    rw [loop_succ] at h
    obtain ⟨v, next, l, m, hitem, hround, rfl⟩ | ⟨e, l, m, hitem, hend, rfl⟩ :=
      resolve_eq_ok_iff.mp h
    · obtain ⟨k, hk, rfl⟩ := record_eq_ok_iff.mp hitem
      exact rounds_round (hp c _ k hk) (fun _ _ hloop => ih hloop) hround
    · obtain ⟨k, hk, rfl⟩ := record_eq_ok_iff.mp hitem
      cases hend
      rw [List.append_nil]
      exact ⟨[], c, rfl, .failed (hp c _ k hk)⟩

theorem logsIn_tapped_many (hp : LogsIn Accounted p) :
    LogsIn Accounted (tapped "repetition" (many (tapped "item" p))) := by
  intro c o log h
  obtain ⟨l, hmany, rfl⟩ := record_eq_ok_iff.mp h
  rw [many_eq_loop] at hmany
  obtain ⟨vs, last, rfl, hrounds⟩ := rounds_loop hp _ hmany
  exact .repetition hrounds

theorem logsIn_tapped_many1 (hp : LogsIn Accounted p) :
    LogsIn Accounted (tapped "repetition" (many1 (tapped "item" p))) := by
  intro c o log h
  obtain ⟨log', hmany, rfl⟩ := record_eq_ok_iff.mp h
  rw [many1_eq_resolve] at hmany
  obtain ⟨v, next, l, m, hitem, hround, rfl⟩ | ⟨e, l, m, hitem, hend, rfl⟩ :=
    resolve_eq_ok_iff.mp hmany
  · obtain ⟨k, hk, rfl⟩ := record_eq_ok_iff.mp hitem
    obtain ⟨vs, last, rfl, hrounds⟩ :=
      rounds_round (hp c _ k hk) (fun _ _ hloop => rounds_loop hp _ hloop) hround
    exact .repetition hrounds
  · obtain ⟨k, hk, rfl⟩ := record_eq_ok_iff.mp hitem
    cases hend
    rw [List.append_nil]
    exact .unmatched (hp c _ k hk)

/-- A loop over tapped separators and items never fails, and its log tells how it ended. -/
theorem pairs_loop (hp : LogsIn Accounted p) (hq : LogsIn Accounted q) (fuel : Nat)
    (h : loop .listEnded (separated (tapped "item" p) (tapped "separator" q)) fuel c =
      .ok (o, log)) :
    ∃ vs last, o = .success vs last ∧ Pairs c.offset last.offset log := by
  induction fuel generalizing c o log with
  | zero => cases h
  | succ fuel ih =>
    rw [loop_succ, separated, andThen, resolve_resolve] at h
    obtain ⟨w, start, ls, lp, hsep, hpart, rfl⟩ | ⟨e, ls, lp, hsep, hend, rfl⟩ :=
      resolve_eq_ok_iff.mp h
    · obtain ⟨ks, hks, rfl⟩ := record_eq_ok_iff.mp hsep
      have hacc : Accounted ks := hq c _ ks hks
      obtain ⟨v, next, li, lr, hitem, hround, rfl⟩ | ⟨e, li, lr, hitem, hend, rfl⟩ :=
        resolve_eq_ok_iff.mp hpart
      · obtain ⟨ki, hki, rfl⟩ := record_eq_ok_iff.mp hitem
        have hacc' : Accounted ki := hp start _ ki hki
        obtain ⟨hstay, rfl, rfl⟩ | ⟨hmove, o', hrest, hend⟩ := of_round_eq_ok hround
        · refine ⟨[v], c, rfl, ?_⟩
          simpa [Outcome.ending, hstay] using Pairs.stayed (i := start.offset) hacc hacc'
        · obtain ⟨vs, last, rfl, hpairs⟩ := ih hrest
          refine ⟨v :: vs, last, hend vs last rfl, ?_⟩
          simpa [Outcome.ending] using Pairs.moved (i := start.offset) hacc hacc' hmove hpairs
      · obtain ⟨ki, hki, rfl⟩ := record_eq_ok_iff.mp hitem
        cases hend
        refine ⟨[], c, rfl, ?_⟩
        simpa [Outcome.ending] using
          Pairs.noItem (a := c.offset) (x := e.position) hacc (hp start _ ki hki)
    · obtain ⟨ks, hks, rfl⟩ := record_eq_ok_iff.mp hsep
      rw [Run.failure, resolve] at hend
      cases hend
      refine ⟨[], c, rfl, ?_⟩
      simpa [Outcome.ending] using
        Pairs.noSeparator (a := c.offset) (x := e.position) (hq c _ ks hks)

theorem logsIn_tapped_sepBy (hp : LogsIn Accounted p) (hq : LogsIn Accounted q) :
    LogsIn Accounted (tapped "list" (sepBy (tapped "item" p) (tapped "separator" q))) := by
  intro c o log h
  obtain ⟨log', hlist, rfl⟩ := record_eq_ok_iff.mp h
  obtain ⟨v, next, l, m, hitem, hmore, rfl⟩ | ⟨e, l, m, hitem, hend, rfl⟩ :=
    resolve_eq_ok_iff.mp hlist
  · obtain ⟨k, hk, rfl⟩ := record_eq_ok_iff.mp hitem
    rw [moreItems_eq_loop] at hmore
    obtain ⟨vs, last, m, m', hloop, hend, rfl⟩ | ⟨e, m, m', hloop, -, -⟩ :=
      resolve_eq_ok_iff.mp hmore
    · obtain ⟨vs', last', hsucc, hpairs⟩ := pairs_loop hp hq _ hloop
      cases hsucc
      cases hend
      rw [List.append_nil]
      exact .list (hp c _ k hk) hpairs
    · obtain ⟨vs', last', hsucc, -⟩ := pairs_loop hp hq _ hloop
      cases hsucc
  · obtain ⟨k, hk, rfl⟩ := record_eq_ok_iff.mp hitem
    cases hend
    rw [List.append_nil]
    exact .emptyList (hp c _ k hk)

end Recogniser

/-! ## Itemised parsers -/

theorem Record.isTap_of_isZeroWidth {r : Record} (h : r.isZeroWidth = true) : r.isTap = false := by
  cases r with
  | tapped name start ending => cases h
  | repetitionEnded n | listEnded n | succeeded a b | failed e a m | noted t => rfl

/-- The records of loops that were ended, and what they read. -/
theorem Record.exists_of_isZeroWidth {r : Record} (h : r.isZeroWidth = true) :
    ∃ n, (r = .repetitionEnded n ∧
        r.text = s!"zero-width match at offset {n} ends repetition") ∨
      (r = .listEnded n ∧
        r.text = s!"zero-width separator and item at offset {n} end list") := by
  cases r with
  | repetitionEnded n => exact ⟨n, .inl ⟨rfl, ((text_eq_iff rfl).1 n).mpr rfl⟩⟩
  | listEnded n => exact ⟨n, .inr ⟨rfl, ((text_eq_iff rfl).2.1 n).mpr rfl⟩⟩
  | succeeded a b | failed e a m | tapped name a ending | noted t => cases h

namespace Parser

/-- A parser with a tap on its repetitions and lists, and on the items and separators of
these. -/
def itemised : {α : Type} → Parser S α → Parser S α
  | _, literal t => literal t
  | _, pattern p => pattern p
  | _, succeed v => succeed v
  | _, fail m => fail m
  | _, endOfInput => endOfInput
  | _, map p f => map (itemised p) f
  | _, chain p next => chain (itemised p) fun v => itemised (next v)
  | _, filter p keep m => filter (itemised p) keep m
  | _, orElse p q => orElse (itemised p) (itemised q)
  | _, keepRight p q => keepRight (itemised p) (itemised q)
  | _, keepLeft p q => keepLeft (itemised p) (itemised q)
  | _, many p => tap "repetition" (many (tap "item" (itemised p)))
  | _, many1 p => tap "repetition" (many1 (tap "item" (itemised p)))
  | _, optional p => optional (itemised p)
  | _, trim p => trim (itemised p)
  | _, sepBy p sep => tap "list" (sepBy (tap "item" (itemised p)) (tap "separator" (itemised sep)))
  | _, between opening closing p => between (itemised opening) (itemised closing) (itemised p)
  | _, choice ps => choice fun i => itemised (ps i)
  | _, sequence ps => sequence fun i => itemised (ps i)
  | _, notAhead p => notAhead (itemised p)
  | _, lookAhead p => lookAhead (itemised p)
  | _, takeUntil p => takeUntil (itemised p)
  | _, label p m => label (itemised p) m
  | _, withSpan p => withSpan (itemised p)
  | _, rule r => rule r
  | _, tap n p => tap n (itemised p)
  | _, note p text => note (itemised p) text

end Parser

def Grammar.itemised (g : Grammar S) : Grammar S := fun r => (g r).itemised

namespace Parser

open Correspondence Recogniser

variable {call call' : (r : S.Rule) → Recogniser (S.Result r)}

theorem alike_denote_itemised (hcall : ∀ r, Alike butForTaps (call r) (call' r))
    (p : Parser S α) : Alike butForTaps (denote call p.itemised) (denote call' p) := by
  have htapped {β : Type} {q q' : Recogniser β} (name : String) (h : Alike butForTaps q q') :
      Alike butForTaps (tapped name q) q' :=
    fun c d hcd => (h c d hcd).tapLeft name c.offset
  induction p with
  | literal t => exact alike_literal t
  | pattern p => exact alike_butForTaps_self _
  | succeed v => exact alike_succeed v
  | fail m => exact alike_fail _
  | endOfInput => exact alike_endOfInput
  | map p f ih => exact ih.andThen fun v => alike_succeed (f v)
  | chain p next ih ihnext => exact ih.andThen ihnext
  | filter p keep m ih => exact ih.filter keep m
  | orElse p q ihp ihq => exact ihp.orElse ihq
  | keepRight p q ihp ihq => exact ihp.andThen fun _ => ihq
  | keepLeft p q ihp ihq => exact ihp.followedBy ihq
  | many p ih => exact htapped _ (htapped _ ih).many
  | many1 p ih => exact htapped _ (htapped _ ih).many1
  | optional p ih => exact ih.optional
  | trim p ih => exact .trim (alike_butForTaps_self _) ih
  | sepBy p sep ihp ihsep => exact htapped _ ((htapped _ ihp).sepBy (htapped _ ihsep))
  | between opening closing p iho ihc ihp => exact iho.andThen fun _ => ihp.followedBy ihc
  | choice ps ih => exact alike_choice ih
  | sequence ps ih => exact alike_sequence ih
  | notAhead p ih => exact ih.notAhead
  | lookAhead p ih => exact ih.lookAhead
  | takeUntil p ih => exact ih.takeUntil
  | label p m ih => exact ih.label m
  | withSpan p ih => exact ih.withSpan fun _ _ h => congrArg Cursor.offset h
  | rule r => exact hcall r
  | tap n p ih => exact ih.tap n
  | note p text ih => exact ih.note text

theorem untapped_parseWithin_itemised (g : Grammar S) (depth : Nat) (p : Parser S α)
    (c : Cursor) :
    (parseWithin g.itemised depth p.itemised c).untapped = (parseWithin g depth p c).untapped := by
  have halike : ∀ {α : Type} (p : Parser S α),
      Alike butForTaps (parseWithin g.itemised depth p.itemised) (parseWithin g depth p) := by
    induction depth with
    | zero => exact alike_denote_itemised fun _ _ _ _ => .breakdown _
    | succ depth ih => exact alike_denote_itemised fun r => ih (g r)
  exact (halike p c c rfl).untapped

theorem allRecording_itemised (hcall : ∀ r, LogsIn Accounted (call r)) {p : Parser S α}
    (hp : p.MayRecord True False) :
    p.itemised.AllRecording fun q => LogsIn Accounted (denote call q) := by
  have denoted {β : Type} {q : Parser S β}
      (hq : q.AllRecording fun q => LogsIn Accounted (denote call q)) :
      LogsIn Accounted (denote call q) := logsIn_denote joins_accounted hcall hq
  induction p with
  | literal _ | pattern _ | succeed _ | fail _ | endOfInput | rule _ => trivial
  | many p ih => exact logsIn_tapped_many (denoted (ih hp.2))
  | many1 p ih => exact logsIn_tapped_many1 (denoted (ih hp.2))
  | sepBy p sep ihp ihsep =>
    exact logsIn_tapped_sepBy (denoted (ihp hp.2.1)) (denoted (ihsep hp.2.2))
  | tap _ p ih | note p _ ih => exact hp.1.elim
  | chain p next ih ihnext => exact ⟨ih hp.1, fun v => ihnext v (hp.2 v)⟩
  | orElse p q ihp ihq | keepRight p q ihp ihq | keepLeft p q ihp ihq =>
    exact ⟨ihp hp.1, ihq hp.2⟩
  | between opening closing p iho ihc ihp => exact ⟨iho hp.1, ihc hp.2.1, ihp hp.2.2⟩
  | choice ps ih | sequence ps ih => exact fun i => ih i (hp i)
  | map p _ ih | filter p _ _ ih | optional p ih | trim p ih | notAhead p ih | lookAhead p ih
  | takeUntil p ih | label p _ ih | withSpan p ih => exact ih hp

theorem accounted_parseWithin_itemised {g : Grammar S} (hg : ∀ r, (g r).MayRecord True False)
    {p : Parser S α} (hp : p.MayRecord True False) (depth : Nat) :
    LogsIn Accounted (parseWithin g.itemised depth p.itemised) :=
  logsIn_parseWithin joins_accounted (fun r _ hcall => allRecording_itemised hcall (hg r))
    (fun _ hcall => allRecording_itemised hcall hp) depth

/-- What a run from an offset writes to the log, if the parser has no taps and notes of its
own.

Behind the records of the parser there is one of how the run ended, from the first boundary at
or after the offset.  The records of the parser are those of its loops, and each kind of record
reads in a way of its own.  With taps on the loops and on their parts one sees that each loop makes
its record behind those of its parts, when its last item or its last separator and item have not
moved, and otherwise none. -/
theorem runAt_log {g : Grammar S} (hg : ∀ r, (g r).MayRecord True False) {p : Parser S α}
    (hp : p.MayRecord True False) {depth : Nat} {text : Text} {index : Nat} {o : Outcome α}
    {log : List Record} (h : runAt g depth p text index = .ok (o, log)) :
    ∃ start records last items,
      text.IsCeil index start ∧
      parseWithin g depth p ⟨text, start⟩ = .ok (o, records) ∧
      log = records ++ [last] ∧
      (∀ v next, o = .success v next → last = .succeeded start next.offset ∧
        last.text = s!"parse succeeded: offset {start} -> {next.offset}") ∧
      (∀ f, o = .failure f → last = .failed f.position start f.message ∧
        last.text =
          s!"parse failed at offset {f.position} (started at {start}): " ++ f.message) ∧
      parseWithin g.itemised depth p.itemised ⟨text, start⟩ = .ok (o, items) ∧
      Accounted items ∧
      records = items.filter (fun r => !r.isTap) ∧
      (∀ r ∈ records, ∃ n, (r = .repetitionEnded n ∧
          r.text = s!"zero-width match at offset {n} ends repetition") ∨
        (r = .listEnded n ∧
          r.text = s!"zero-width separator and item at offset {n} end list")) ∧
      ((∀ r, (g r).MayRecord False False) → p.MayRecord False False → records = []) := by
  obtain ⟨records, hrun, rfl⟩ := Run.record_eq_ok_iff.mp h
  have htaps := untapped_parseWithin_itemised g depth p (.ofOffset text index)
  rw [hrun] at htaps
  cases hitems : parseWithin g.itemised depth p.itemised (.ofOffset text index) with
  | error b =>
    rw [hitems] at htaps
    cases htaps
  | ok x =>
    obtain ⟨o', items⟩ := x
    rw [hitems] at htaps
    obtain ⟨rfl, hfilter⟩ := Prod.mk.inj (Except.ok.inj htaps)
    have hloops := isZeroWidth_of_mayRecord hg hp hrun
    have hown : records.filter (fun r => !r.isTap) = records := by
      refine List.filter_eq_self.mpr fun r hr => ?_
      rw [Record.isTap_of_isZeroWidth (hloops r hr).2]
      rfl
    rw [hown] at hfilter
    refine ⟨text.ceil index, records, _, items, text.isCeil_ceil index, hrun, rfl, ?_, ?_, hitems,
      accounted_parseWithin_itemised hg hp depth _ _ _ hitems, hfilter.symm,
      fun r hr => Record.exists_of_isZeroWidth (hloops r hr).2, ?_⟩
    · rintro v next rfl
      exact ⟨rfl, ((Record.text_eq_iff rfl).2.2.1 _ _).mpr rfl⟩
    · rintro f rfl
      exact ⟨rfl, ((Record.text_eq_iff rfl).2.2.2 _ _ _).mpr rfl⟩
    · intro hg' hp'
      refine List.eq_nil_iff_forall_not_mem.mpr fun r hr => ?_
      exact (isZeroWidth_of_mayRecord hg' hp' hrun r hr).1

end Parser

/-! ## An instance -/

namespace Nested

open TextGrammar.Parser

/-- Optional nests up to a character that is not there, and then a list of them. -/
def attempts : Parser signature Nat :=
  .orElse (.keepLeft (.map (.many (.optional (.rule ()))) List.length) (.literal ['b']))
    (.map (.sepBy (.optional (.rule ())) (.optional (.literal [',']))) List.length)

/-- The offset is inside the first character, so parsing begins behind it.  The repetition goes
on behind the nest without moving, and leaves its record although a `b` is missing.  So does
the list, behind the nest as well. -/
theorem attempts_log :
    (∀ r, (grammar r).MayRecord True False) ∧ attempts.MayRecord True False ∧
    runAt grammar 2 attempts ['é', 'x', 'c'] 1 =
      .ok (.success 2 ⟨['é', 'x', 'c'], 3⟩,
        [.repetitionEnded 3, .listEnded 3, .succeeded 2 3]) ∧
    (Record.succeeded 2 3).text = "parse succeeded: offset 2 -> 3" ∧
    ∃ items, parseWithin grammar.itemised 2 attempts.itemised ⟨['é', 'x', 'c'], 2⟩ =
        .ok (.success 2 ⟨['é', 'x', 'c'], 3⟩, items) ∧
      Accounted items ∧ items.length = 9 := by
  have hg (r : signature.Rule) : (grammar r).MayRecord True False :=
    ⟨⟨trivial, trivial, trivial⟩, trivial⟩
  have hp : attempts.MayRecord True False :=
    ⟨⟨⟨trivial, trivial⟩, trivial⟩, ⟨trivial, trivial, trivial⟩⟩
  have hrun : runAt grammar 2 attempts ['é', 'x', 'c'] 1 =
      .ok (.success 2 ⟨['é', 'x', 'c'], 3⟩,
        [.repetitionEnded 3, .listEnded 3, .succeeded 2 3]) := rfl
  obtain ⟨start, records, last, items, hstart, -, -, hlast, -, hitems, hacc, -⟩ :=
    runAt_log hg hp hrun
  obtain rfl : start = 2 := hstart.unique (Text.isCeil_ceil ['é', 'x', 'c'] 1)
  obtain ⟨rfl, htext⟩ := hlast _ _ rfl
  refine ⟨hg, hp, hrun, htext.trans rfl, items, hitems, hacc, ?_⟩
  cases hitems
  rfl

end Nested
end TextGrammar
