/-
Lists of digits between brackets.

The parser takes `[`, runs of digits with a comma between any two, and `]`, and nothing else: it
is undone by printing the list.  Where it fails behind the opening bracket, it does so at the end
of the longest list that stands there.  A comma behind that list is not part of it unless another
run follows, so a comma too many is where the closing bracket is missed.
-/
import TextGrammar.Proofs.Nested
import TextGrammar.Proofs.Pattern.Threads
import TextGrammar.Proofs.Taking
import TextGrammar.Proofs.Wording

namespace TextGrammar
namespace DigitList

open Pattern Recogniser TextGrammar.Parser

/-! ## The language -/

/-- One digit or more. -/
def IsRun (d : Text) : Prop := d ≠ [] ∧ ∀ c ∈ d, c.isDigit = true

/-- The items with a comma between any two. -/
def joined (ds : List Text) : Text := [','].intercalate ds

/-- The printed form of a list. -/
def printed (ds : List Text) : Text := '[' :: (joined ds ++ [']'])

/-- A text without items, or items with commas between them. -/
def IsList (t : Text) : Prop := ∃ ds, (∀ d ∈ ds, IsRun d) ∧ t = joined ds

/-- The longest list in front of a text. -/
structure IsLongest (s t : Text) : Prop where
  isList : IsList t
  begins : t <+: s
  length_le : ∀ u, IsList u → u <+: s → u.length ≤ t.length

/-- Items behind others, with a comma in front of each. -/
def more (ds : List Text) : Text := ds.flatMap fun d => ',' :: d

/-- The text does not begin with a comma and a digit. -/
def NoItem (r : Text) : Prop := ∀ t : Text, r = ',' :: t → t.Outside digitSet

/-- Behind these items the text goes on neither with a digit nor with another item. -/
structure Ends (ds : List Text) (r : Text) : Prop where
  run : r.Outside digitSet
  item : ds ≠ [] → NoItem r

variable {d d' r s : Text} {ds ds' : List Text}

theorem IsRun.within (h : IsRun d) : d.Within digitSet :=
  fun c hc => (contains_digitSet c).trans (h.2 c hc)

theorem isRun_of_within (h : d.Within digitSet) (hne : d ≠ []) : IsRun d :=
  ⟨hne, fun c hc => (contains_digitSet c).symm.trans (h c hc)⟩

theorem IsRun.not_outside (h : IsRun d) (t : Text) : ¬ (d ++ t).Outside digitSet := by
  intro hout
  obtain ⟨c, u, rfl⟩ := List.exists_cons_of_ne_nil h.1
  have hin := h.within c List.mem_cons_self
  rw [hout c rfl] at hin
  cases hin

theorem joined_cons (d : Text) (ds : List Text) : joined (d :: ds) = d ++ more ds := by
  induction ds generalizing d with
  | nil => rw [joined, List.intercalate_singleton, more, List.flatMap_nil, List.append_nil]
  | cons d' ds ih =>
    have hrest : [','].intercalate (d' :: ds) = d' ++ more ds := ih d'
    rw [joined, List.intercalate_cons_cons, hrest, more, more, List.flatMap_cons]
    simp only [List.append_assoc, List.cons_append, List.nil_append]

theorem more_cons (d : Text) (ds : List Text) : more (d :: ds) = ',' :: (d ++ more ds) := rfl

theorem outside_more (hr : r.Outside digitSet) (ds : List Text) :
    (more ds ++ r).Outside digitSet := by
  cases ds with
  | nil => exact hr
  | cons d ds => exact Text.outside_cons rfl _

theorem ends_nil (hr : r.Outside digitSet) : Ends [] r := ⟨hr, fun h => absurd rfl h⟩

theorem ends_bracket (ds : List Text) (r : Text) : Ends ds (']' :: r) :=
  ⟨Text.outside_cons rfl r, fun _ t h => by cases h⟩

/-! ## The end of a list -/

/-- Every text that does not begin with a digit has items up to some place, and ends there. -/
theorem exists_more (hs : s.Outside digitSet) :
    ∃ ds r, s = more ds ++ r ∧ (∀ d ∈ ds, IsRun d) ∧ r.Outside digitSet ∧ NoItem r := by
  induction hn : s.length using Nat.strongRecOn generalizing s with
  | ind n ih =>
    by_cases hitem : ∃ t : Text, s = ',' :: t ∧ ¬ t.Outside digitSet
    · obtain ⟨t, rfl, ht⟩ := hitem
      obtain ⟨d, u, rfl, hd, hne, hu⟩ := Text.exists_run_of_not_outside ht
      have hlt : u.length < n := by
        rw [← hn, List.length_cons, List.length_append]
        omega
      obtain ⟨ds, r, rfl, hds, hr⟩ := ih u.length hlt hu rfl
      refine ⟨d :: ds, r, ?_, List.forall_mem_cons.mpr ⟨isRun_of_within hd hne, hds⟩, hr⟩
      rw [more_cons, List.cons_append, List.append_assoc]
    · refine ⟨[], s, rfl, fun _ h => absurd h List.not_mem_nil, hs, fun t ht => ?_⟩
      exact Classical.not_not.mp fun h => hitem ⟨t, ht, h⟩

/-- Every text has a list in front of it that ends where it cannot go on. -/
theorem exists_list (s : Text) :
    ∃ ds r, s = joined ds ++ r ∧ (∀ d ∈ ds, IsRun d) ∧ Ends ds r := by
  by_cases hs : s.Outside digitSet
  · exact ⟨[], s, rfl, fun _ h => absurd h List.not_mem_nil, ends_nil hs⟩
  · obtain ⟨d, u, rfl, hd, hne, hu⟩ := Text.exists_run_of_not_outside hs
    obtain ⟨ds, r, rfl, hds, hr, hitem⟩ := exists_more hu
    refine ⟨d :: ds, r, ?_, List.forall_mem_cons.mpr ⟨isRun_of_within hd hne, hds⟩,
      ⟨hr, fun _ => hitem⟩⟩
    rw [joined_cons, List.append_assoc]

/-- An item in front of others is the same in both, unless it is the last one in one of them. -/
theorem append_more_begins (hd : IsRun d) (hd' : IsRun d') (hr : r.Outside digitSet)
    (hmore : more ds' <+: more ds ++ r → more ds' <+: more ds)
    (h : d' ++ more ds' <+: d ++ (more ds ++ r)) : d' ++ more ds' <+: d ++ more ds := by
  have hbegins : d' <+: d :=
    hd'.within.isPrefix_of_append (outside_more hr ds) ((List.prefix_append _ _).trans h)
  obtain ⟨a, rfl⟩ := hbegins
  rw [List.append_assoc, List.prefix_append_right_inj] at h
  rw [List.append_assoc, List.prefix_append_right_inj]
  cases ds' with
  | nil => exact List.nil_prefix
  | cons d'' ds' =>
    cases a with
    | nil => exact hmore h
    | cons c a =>
      -- The first item would go on with the comma that ends the other one.
      obtain rfl : ',' = c := (List.cons_prefix_cons.mp h).1
      have hcomma := hd.2 ',' (List.mem_append_right d' List.mem_cons_self)
      cases hcomma

/-- No further items than these stand in front of `r`, -/
theorem more_begins (hds : ∀ d ∈ ds, IsRun d) (hds' : ∀ d ∈ ds', IsRun d)
    (hr : r.Outside digitSet) (hitem : NoItem r) (h : more ds' <+: more ds ++ r) :
    more ds' <+: more ds := by
  induction ds generalizing ds' with
  | nil =>
    cases ds' with
    | nil => exact List.nil_prefix
    | cons d' ds' =>
      obtain ⟨t, ht⟩ := h
      have hr' : r = ',' :: ((d' ++ more ds') ++ t) := ht.symm
      have hout := hitem _ hr'
      rw [List.append_assoc] at hout
      exact absurd hout ((hds' d' List.mem_cons_self).not_outside _)
  | cons d ds ih =>
    cases ds' with
    | nil => exact List.nil_prefix
    | cons d' ds' =>
      obtain ⟨hd, hds⟩ := List.forall_mem_cons.mp hds
      obtain ⟨hd', hds'⟩ := List.forall_mem_cons.mp hds'
      rw [more_cons, more_cons, List.cons_append, List.cons_prefix_cons, List.append_assoc] at h
      rw [more_cons, more_cons, List.cons_prefix_cons]
      exact ⟨rfl, append_more_begins hd hd' hr (ih hds hds') h.2⟩

/-- and so no longer list does. -/
theorem joined_begins (hds : ∀ d ∈ ds, IsRun d) (hds' : ∀ d ∈ ds', IsRun d) (hr : Ends ds r)
    (h : joined ds' <+: joined ds ++ r) : joined ds' <+: joined ds := by
  cases ds' with
  | nil => exact List.nil_prefix
  | cons d' ds' =>
    obtain ⟨hd', hds'⟩ := List.forall_mem_cons.mp hds'
    cases ds with
    | nil =>
      obtain ⟨t, ht⟩ := h
      have hrun : joined (d' :: ds') ++ t = r := ht
      have hout := hr.run
      rw [← hrun, joined_cons, List.append_assoc] at hout
      exact absurd hout (hd'.not_outside _)
    | cons d ds =>
      obtain ⟨hd, hds⟩ := List.forall_mem_cons.mp hds
      rw [joined_cons, joined_cons, List.append_assoc] at h
      rw [joined_cons, joined_cons]
      exact append_more_begins hd hd' hr.run
        (more_begins hds hds' hr.run (hr.item (List.cons_ne_nil d ds))) h

theorem isLongest_joined (hds : ∀ d ∈ ds, IsRun d) (hr : Ends ds r) :
    IsLongest (joined ds ++ r) (joined ds) where
  isList := ⟨ds, hds, rfl⟩
  begins := List.prefix_append _ r
  length_le := by
    rintro u ⟨ds', hds', rfl⟩ hu
    exact (joined_begins hds hds' hr hu).length_le

/-! ## The parser -/

variable {S : Signature} {call : (r : S.Rule) → Recogniser (S.Result r)} {c : Cursor}
  {digit : Pattern}

/-- Runs of digits with commas between them, in brackets. -/
def bracketed : Parser S (List Text) :=
  .between (.literal ['[']) (.literal [']']) (.sepBy .digits (.literal [',']))

/-- A comma that no item follows is given back. -/
theorem refuses_item (hdigit : digit.MatchesLeading digitSet digitSet) (hitem : NoItem r) :
    (separated (.pattern digit) (.literal [','])).Refuses r := by
  by_cases hcomma : [','] <+: r
  · obtain ⟨t, rfl⟩ := hcomma
    exact (takes_literal [','] t).andThen_refuses (f := fun _ => .pattern digit)
      (refuses_run hdigit (hitem t rfl))
  · exact (refuses_literal hcomma).andThen fun _ => .pattern digit

theorem takes_more (hdigit : digit.MatchesLeading digitSet digitSet) (hds : ∀ d ∈ ds, IsRun d)
    (hr : r.Outside digitSet) (hitem : NoItem r) :
    (exhaust .listEnded (separated (.pattern digit) (.literal [',']))).Takes (more ds) ds r := by
  have hsafe (n : Nat) :
      (separated (.pattern digit) (.literal [','])).SafeBelow (fun _ => True) n :=
    (safeBelow_pattern digit).separated (safeBelow_literal [','])
  induction ds with
  | nil => exact takes_exhaust_nil (refuses_item hdigit hitem)
  | cons d ds ih =>
    obtain ⟨hd, hds⟩ := List.forall_mem_cons.mp hds
    have hpair : (separated (.pattern digit) (.literal [','])).Takes ([','] ++ d) d
        (more ds ++ r) :=
      (takes_literal [','] _).andThen (f := fun _ => .pattern digit)
        (takes_run hdigit hd.within hd.1 (outside_more hr ds))
    exact takes_exhaust_cons (forward_of_safeBelow hsafe) hpair (List.cons_ne_nil ',' d) (ih hds)

theorem takes_list (hdigit : digit.MatchesLeading digitSet digitSet) (hds : ∀ d ∈ ds, IsRun d)
    (hr : Ends ds r) :
    (Recogniser.sepBy (.pattern digit) (.literal [','])).Takes (joined ds) ds r := by
  cases ds with
  | nil => exact takes_sepBy_nil (refuses_run hdigit hr.run) (literal [','])
  | cons d ds =>
    obtain ⟨hd, hds⟩ := List.forall_mem_cons.mp hds
    rw [joined_cons]
    exact takes_sepBy_cons (takes_run hdigit hd.within hd.1 (outside_more hr.run ds))
      (takes_more hdigit hds hr.run (hr.item (List.cons_ne_nil d ds)))

theorem takes_bracketed (hE : S.engine.LeftmostFirst "[0-9]+") (hds : ∀ d ∈ ds, IsRun d)
    (r : Text) :
    (denote call bracketed).Takes (printed ds) ds r := by
  have hopening : (denote call (.literal ['['])).Takes ['['] ['['] ((joined ds ++ [']']) ++ r) :=
    takes_literal ['['] _
  have hlist : (denote call (.sepBy .digits (.literal [',']))).Takes (joined ds) ds ([']'] ++ r) :=
    takes_list (Engine.matchesLeading_of_run (l := .digits) rfl hE) hds (ends_bracket ds r)
  have hclosing : (denote call (.literal [']'])).Takes [']'] [']'] r := takes_literal [']'] r
  exact takes_between hopening hlist hclosing

theorem bracketed_eq_failAt_opening (h : ¬ ['['] <+: r) (hc : c.rest? = some r) :
    denote call bracketed c = Run.failAt c (.expectedLiteral ['[']) := by
  show (literal ['['] c).andThen _ = _
  rw [literal_eq_failAt hc h]
  exact Run.andThen_failure _ _

/-- Without a closing bracket behind the list, one is missed there. -/
theorem bracketed_eq_failAt_closing (hE : S.engine.LeftmostFirst "[0-9]+")
    (hds : ∀ d ∈ ds, IsRun d) (hr : Ends ds r) (h : ¬ [']'] <+: r)
    (hc : c.rest? = some ('[' :: (joined ds ++ r))) :
    denote call bracketed c =
      Run.failAt ⟨c.text, c.offset + 1 + (joined ds).size⟩ (.expectedLiteral [']']) := by
  have hopening : (denote call (.literal ['['])).Takes ['['] ['['] (joined ds ++ r) :=
    takes_literal ['['] _
  have hlist : (denote call (.sepBy .digits (.literal [',']))).Takes (joined ds) ds r :=
    takes_list (Engine.matchesLeading_of_run (l := .digits) rfl hE) hds hr
  have hinner : c.rest? = some ((['['] ++ joined ds) ++ r) := hc
  have hsize : Text.size (['['] ++ joined ds) = 1 + (joined ds).size := Text.size_append ['['] _
  have hend := Cursor.rest?_advance hinner
  rw [bracketed, between_eq_of_takes hopening hlist hc]
  rw [Cursor.advance_eq_of_rest? hinner, hsize, ← Nat.add_assoc] at hend ⊢
  show (literal [']'] _).andThen _ = _
  rw [literal_eq_failAt hend h]
  exact Run.andThen_failure _ _

theorem bracketed_of_printed (hE : S.engine.LeftmostFirst "[0-9]+")
    (hds : ∀ d ∈ ds, IsRun d) (h : printed ds <+: r)
    (hc : c.rest? = some r) :
    denote call bracketed c = Run.success ds ⟨c.text, c.offset + (printed ds).size⟩ := by
  obtain ⟨s, rfl⟩ := h
  rw [takes_bracketed hE hds s c hc, Cursor.advance_eq_of_rest? hc]

/-- Printing the list gives back what has been consumed. -/
theorem sliceTo?_printed (h : printed ds <+: r) (hc : c.rest? = some r) :
    c.sliceTo? ⟨c.text, c.offset + (printed ds).size⟩ = some (printed ds) := by
  obtain ⟨s, rfl⟩ := h
  rw [← Cursor.advance_eq_of_rest? hc]
  exact Cursor.sliceTo?_advance hc

/-- What is missed, and where, if no list in brackets begins at the cursor. -/
inductive Misses (c : Cursor) (r : Text) : Failure → Prop where
  | opening : ¬ ['['] <+: r → Misses c r ⟨.expectedLiteral ['['], c.location⟩
  | closing {s t : Text} : r = '[' :: s → IsLongest s t →
    Misses c r ⟨.expectedLiteral [']'], ⟨c.text, c.offset + 1 + t.size⟩⟩

/-- The message says which bracket is missed. -/
theorem Misses.message_iff {f : Failure} (h : Misses c r f) :
    (f.message = "Expected \"[\"" ↔ ¬ ['['] <+: r) ∧
      (f.message = "Expected \"]\"" ↔ ['['] <+: r) := by
  cases h with
  | opening hopening =>
    have hmessage := (Cause.text_eq_iff (x := .expectedLiteral ['[']) rfl).1
    refine ⟨⟨fun _ => hopening, fun _ => (hmessage ['[']).mpr rfl⟩, fun hclosing => ?_, fun hr =>
      absurd hr hopening⟩
    cases (hmessage [']']).mp hclosing
  | closing hr _ =>
    have hopening : ['['] <+: r := ⟨_, hr.symm⟩
    have hmessage := (Cause.text_eq_iff (x := .expectedLiteral [']']) rfl).1
    refine ⟨⟨fun hmissed => ?_, fun hnot => absurd hopening hnot⟩, fun _ => hopening, fun _ =>
      (hmessage [']']).mpr rfl⟩
    cases (hmessage ['[']).mp hmissed

/-- Every text begins with the printed form of a list, or the parser fails in front of it. -/
theorem exists_printed_or_misses (hE : S.engine.LeftmostFirst "[0-9]+")
    (hc : c.rest? = some r) :
    (∃ ds, (∀ d ∈ ds, IsRun d) ∧ printed ds <+: r) ∨
    ∃ f, denote call bracketed c = Run.failure f ∧ Misses c r f := by
  by_cases hopening : ['['] <+: r
  · obtain ⟨s, rfl⟩ := hopening
    obtain ⟨ds, u, rfl, hds, hu⟩ := exists_list s
    by_cases hclosing : [']'] <+: u
    · obtain ⟨t, rfl⟩ := hclosing
      refine .inl ⟨ds, hds, t, ?_⟩
      rw [printed, List.cons_append, List.append_assoc]
      rfl
    · exact .inr ⟨_, bracketed_eq_failAt_closing hE hds hu hclosing hc,
        .closing rfl (isLongest_joined hds hu)⟩
  · exact .inr ⟨_, bracketed_eq_failAt_opening hopening hc, .opening hopening⟩

/-- In every grammar, with an engine that finds the longest run of digits, the parser succeeds with
a list exactly where the printed form of this list stands, and consumes just that.  Otherwise it
misses the opening bracket where it began, or the closing bracket behind the longest list that
follows the opening one, and its message says which. -/
theorem parseWithin_bracketed (hE : S.engine.LeftmostFirst "[0-9]+") (g : Grammar S)
    (depth : Nat) (hc : c.rest? = some r) :
    ∃ o : Outcome (List Text), parseWithin g depth bracketed c = .ok (o, []) ∧
      (∀ ds next, o = .success ds next ↔ (∀ d ∈ ds, IsRun d) ∧ printed ds <+: r ∧
        next = ⟨c.text, c.offset + (printed ds).size⟩) ∧
      (∀ ds next, o = .success ds next → c.sliceTo? next = some (printed ds)) ∧
      ∀ f, o = .failure f → Misses c r f ∧
        (f.message = "Expected \"[\"" ↔ ¬ ['['] <+: r) ∧
        (f.message = "Expected \"]\"" ↔ ['['] <+: r) := by
  obtain ⟨call, hcall⟩ := exists_parseWithin_eq_denote g depth
  rw [hcall]
  obtain ⟨o, hrun, hsuccess, hfailure⟩ := Run.exists_outcome
    (fun ds hds => bracketed_of_printed hE hds.1 hds.2 hc) (exists_printed_or_misses hE hc)
  refine ⟨o, hrun, ?_, ?_, fun f ho => ⟨hfailure f ho, (hfailure f ho).message_iff⟩⟩
  · intro ds next
    rw [hsuccess, and_assoc]
  · intro ds next h
    obtain ⟨⟨-, hr⟩, rfl⟩ := (hsuccess ds next).mp h
    exact sliceTo?_printed hr hc

/-- A comma behind the last item. -/
def trailingComma : Text := ['[', '1', ',', ']']

theorem trailingComma_refused :
    Nested.signature.engine.LeftmostFirst "[0-9]+" ∧
    (Cursor.start trailingComma).rest? = some trailingComma ∧
    parseWithin Nested.grammar 0 bracketed (.start trailingComma) =
      .ok (.failure ⟨.expectedLiteral [']'], ⟨trailingComma, 2⟩⟩, []) ∧
    ∃ t, IsLongest ['1', ',', ']'] t ∧ t.size = 1 := by
  have hc : (Cursor.start trailingComma).rest? = some trailingComma := rfl
  have hrun : parseWithin Nested.grammar 0 bracketed (.start trailingComma) =
      .ok (.failure ⟨.expectedLiteral [']'], ⟨trailingComma, 2⟩⟩, []) := rfl
  have hE : Nested.signature.engine.LeftmostFirst "[0-9]+" :=
    Engine.leftmostFirst_threads_builtIn .digits
  obtain ⟨o, ho, -, -, hfailure⟩ := parseWithin_bracketed hE Nested.grammar 0 hc
  rw [hrun] at ho
  obtain ⟨rfl, -⟩ := Prod.mk.inj (Except.ok.inj ho)
  refine ⟨hE, hc, hrun, ?_⟩
  generalize hf : Failure.mk (.expectedLiteral [']']) ⟨trailingComma, 2⟩ = f at hfailure
  cases (hfailure f rfl).1 with
  | opening h => exact absurd ⟨_, rfl⟩ h
  | @closing s t hs ht =>
    obtain rfl : ['1', ',', ']'] = s := (List.cons.inj hs).2
    have hoffset : 2 = 0 + 1 + t.size := congrArg Failure.position hf
    exact ⟨t, ht, by omega⟩

end DigitList
end TextGrammar
