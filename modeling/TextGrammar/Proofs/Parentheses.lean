/-
The language of nested parentheses.

The grammar counts the parentheses around an `x`.  It takes exactly the texts in which as many
are closed as were opened.  However far it gets into another text, it gives all of it back and
misses an `x` where it began.
-/
import TextGrammar.Proofs.Depth
import TextGrammar.Proofs.Nested
import TextGrammar.Proofs.Taking

namespace TextGrammar
namespace Nested

open Recogniser TextGrammar.Parser

/-- An `x` in this many parentheses. -/
def printed (d : Nat) : Text := List.replicate d '(' ++ 'x' :: List.replicate d ')'

theorem printed_succ (d : Nat) : printed (d + 1) = ['('] ++ (printed d ++ [')']) := by
  have hclosing : List.replicate (d + 1) ')' = List.replicate d ')' ++ [')'] :=
    List.replicate_succ'
  rw [printed, printed, List.replicate_succ, hclosing]
  simp only [List.cons_append, List.append_assoc, List.nil_append]

theorem length_printed (d : Nat) : (printed d).length = 2 * d + 1 := by
  simp only [printed, List.length_append, List.length_cons, List.length_replicate]
  omega

theorem size_printed (d : Nat) : (printed d).size = 2 * d + 1 := by
  induction d with
  | zero => rfl
  | succ d ih =>
    have hopening : Text.size ['('] = 1 := rfl
    have hclosing : Text.size [')'] = 1 := rfl
    rw [printed_succ, Text.size_append, Text.size_append, ih, hopening, hclosing]
    omega

/-- What the grammar tries first. -/
def parentheses : Parser signature Nat :=
  .map (.between (.literal ['(']) (.literal [')']) (.rule ())) (· + 1)

theorem nested_eq : nested = .orElse parentheses (.map (.literal ['x']) fun _ => 0) := rfl

/-! ## One level -/

variable {call : (r : signature.Rule) → Recogniser (signature.Result r)} {d depth : Nat}
  {r : Text} {c : Cursor}

theorem refuses_parentheses_of_not_opening (h : ¬ ['('] <+: r) :
    (denote call parentheses).Refuses r := by
  have hopening : (denote call (.literal ['('])).Refuses r := refuses_literal h
  exact refuses_map (refuses_between hopening) (· + 1)

theorem takes_x (r : Text) : (denote call nested).Takes ['x'] 0 r := by
  have hx : (denote call (.literal ['x'])).Takes ['x'] ['x'] r := takes_literal ['x'] r
  rw [nested_eq]
  exact takes_orElse_right (refuses_parentheses_of_not_opening (by simp)) (takes_map hx fun _ => 0)

/-- A level around what the rule takes. -/
theorem takes_level (h : (call ()).Takes (printed d) d (')' :: r)) :
    (denote call nested).Takes (printed (d + 1)) (d + 1) r := by
  have hopening : (denote call (.literal ['('])).Takes ['('] ['('] ((printed d ++ [')']) ++ r) :=
    takes_literal ['('] _
  have hrule : (denote call (.rule ())).Takes (printed d) d ([')'] ++ r) := h
  have hclosing : (denote call (.literal [')'])).Takes [')'] [')'] r := takes_literal [')'] r
  rw [nested_eq, printed_succ]
  exact takes_orElse_left (takes_map (takes_between hopening hrule hclosing) (· + 1)) _

/-- Whatever made the parentheses fail, an `x` is missed where they began. -/
theorem nested_eq_failAt (hparentheses : (denote call parentheses).Refuses r)
    (hx : ¬ ['x'] <+: r) (hc : c.rest? = some r) :
    denote call nested c = Run.failAt c (.expectedLiteral ['x']) := by
  rw [nested_eq, orElse_eq_of_refuses hparentheses hc]
  show (literal ['x'] c).andThen _ = _
  rw [literal_eq_failAt hc hx]
  exact Run.andThen_failure _ _

/-- Parentheses that are not closed behind what the rule takes. -/
theorem refuses_parentheses_of_not_closing (h : (call ()).Takes (printed d) d r)
    (hr : ¬ [')'] <+: r) : (denote call parentheses).Refuses ('(' :: (printed d ++ r)) := by
  have hopening : (denote call (.literal ['('])).Takes ['('] ['('] (printed d ++ r) :=
    takes_literal ['('] _
  have hrule : (denote call (.rule ())).Takes (printed d) d r := h
  have hclosing : (denote call (.literal [')'])).Refuses r := refuses_literal hr
  exact refuses_map (refuses_between_of_closing hopening hrule hclosing) (· + 1)

/-- Parentheses around nothing that the rule takes. -/
theorem refuses_parentheses_of_content (h : (call ()).Refuses r) :
    (denote call parentheses).Refuses ('(' :: r) := by
  have hopening : (denote call (.literal ['('])).Takes ['('] ['('] r := takes_literal ['('] r
  have hrule : (denote call (.rule ())).Refuses r := h
  exact refuses_map (refuses_between_of_content hopening hrule) (· + 1)

/-! ## All levels -/

theorem takes_nested (h : d ≤ depth) (r : Text) :
    (parseWithin grammar depth nested).Takes (printed d) d r := by
  induction d generalizing depth r with
  | zero =>
    obtain ⟨call, hcall⟩ := exists_parseWithin_eq_denote grammar depth
    rw [hcall]
    exact takes_x r
  | succ d ih =>
    cases depth with
    | zero => exact absurd h (Nat.not_succ_le_zero d)
    | succ depth => exact takes_level (ih (Nat.le_of_succ_le_succ h) (')' :: r))

theorem parseWithin_nested_of_printed (hd : printed d <+: r) (h : r.length ≤ depth)
    (hc : c.rest? = some r) :
    parseWithin grammar depth nested c =
      .ok (.success d ⟨c.text, c.offset + (2 * d + 1)⟩, []) := by
  obtain ⟨s, rfl⟩ := hd
  rw [List.length_append, length_printed] at h
  have hrun := takes_nested (show d ≤ depth by omega) s c hc
  rw [Cursor.advance_eq_of_rest? hc, size_printed] at hrun
  exact hrun

theorem parseWithin_nested_of_refuses
    (hparentheses : (parseWithin grammar depth parentheses).Refuses r) (hx : ¬ ['x'] <+: r)
    (hc : c.rest? = some r) :
    parseWithin grammar depth nested c = Run.failAt c (.expectedLiteral ['x']) := by
  obtain ⟨call, hcall⟩ := exists_parseWithin_eq_denote grammar depth
  rw [hcall] at hparentheses ⊢
  exact nested_eq_failAt hparentheses hx hc

/-- In front of any other text the parentheses fail, whether they are not opened, are not
closed, or hold another text. -/
theorem refuses_parentheses (hr : ∀ d, ¬ printed d <+: r) (h : r.length ≤ depth) :
    (parseWithin grammar depth parentheses).Refuses r := by
  induction r generalizing depth with
  | nil =>
    obtain ⟨call, hcall⟩ := exists_parseWithin_eq_denote grammar depth
    rw [hcall]
    exact refuses_parentheses_of_not_opening (by simp)
  | cons ch t ih =>
    cases depth with
    | zero => exact absurd h (Nat.not_succ_le_zero _)
    | succ depth =>
      have hlength : t.length ≤ depth := Nat.le_of_succ_le_succ h
      by_cases hopening : ['('] <+: ch :: t
      · obtain rfl : '(' = ch := (List.cons_prefix_cons.mp hopening).1
        by_cases hinner : ∃ d, printed d <+: t
        · obtain ⟨d, s, rfl⟩ := hinner
          refine refuses_parentheses_of_not_closing (takes_nested ?_ s) ?_
          · rw [List.length_append, length_printed] at hlength
            omega
          · rintro ⟨u, rfl⟩
            refine hr (d + 1) ⟨u, ?_⟩
            rw [printed_succ, List.append_assoc, List.append_assoc]
            rfl
        · have hnone (d : Nat) : ¬ printed d <+: t := fun hd => hinner ⟨d, hd⟩
          exact refuses_parentheses_of_content fun c hc =>
            ⟨_, parseWithin_nested_of_refuses (ih hnone hlength) (hnone 0) hc⟩
      · exact refuses_parentheses_of_not_opening hopening

theorem exists_printed_or_failure (hc : c.rest? = some r) :
    (∃ d, printed d <+: r) ∨ ∃ f, parseWithin grammar r.length nested c = Run.failure f ∧
      f = ⟨.expectedLiteral ['x'], c.location⟩ := by
  by_cases hr : ∃ d, printed d <+: r
  · exact .inl hr
  · have hnone (d : Nat) : ¬ printed d <+: r := fun hd => hr ⟨d, hd⟩
    have hparentheses := refuses_parentheses hnone (Nat.le_refl r.length)
    exact .inr ⟨_, parseWithin_nested_of_refuses hparentheses (hnone 0) hc, rfl⟩

/-- The parser returns from every boundary, with calls of the rule nested no more deeply than the
rest of the text is long.  It succeeds with depth `d` exactly where an `x` in `d` parentheses
stands, and moves to the end of these.  Otherwise it expects an `x` where it began. -/
theorem parseWithin_nested (hc : c.rest? = some r) :
    ∃ o : Outcome Nat,
      (∀ depth, r.length ≤ depth → parseWithin grammar depth nested c = .ok (o, [])) ∧
      (∀ d next, o = .success d next ↔
        printed d <+: r ∧ next = ⟨c.text, c.offset + (2 * d + 1)⟩) ∧
      ((∀ d, ¬ printed d <+: r) → o = .failure ⟨.expectedLiteral ['x'], c.location⟩) := by
  obtain ⟨o, hrun, hsuccess, hfailure⟩ := Run.exists_outcome
    (fun d hd => parseWithin_nested_of_printed hd (Nat.le_refl _) hc) (exists_printed_or_failure hc)
  refine ⟨o, fun depth h => parseWithin_mono hrun h, hsuccess, fun hnone => ?_⟩
  cases o with
  | success d next => exact absurd ((hsuccess d next).mp rfl).1 (hnone d)
  | failure f => rw [hfailure f rfl]

/-- An `x` within two parentheses of which one is closed. -/
def unclosed : Text := ['(', '(', 'x', ')']

theorem unclosed_refused :
    (Cursor.start unclosed).rest? = some unclosed ∧ (∀ d, ¬ printed d <+: unclosed) ∧
    ∀ depth, 4 ≤ depth → parseWithin grammar depth nested (.start unclosed) =
      .ok (.failure ⟨.expectedLiteral ['x'], (Cursor.start unclosed).location⟩, []) := by
  have hc : (Cursor.start unclosed).rest? = some unclosed := rfl
  have hnone (d : Nat) : ¬ printed d <+: unclosed := by
    intro hd
    have hlength : (printed d).length ≤ 4 := hd.length_le
    rw [length_printed] at hlength
    obtain rfl | rfl : d = 0 ∨ d = 1 := by omega
    · exact absurd hd (by decide)
    · exact absurd hd (by decide)
  obtain ⟨o, hreturns, -, hfailure⟩ := parseWithin_nested hc
  refine ⟨hc, hnone, fun depth h => ?_⟩
  rw [hreturns depth h, hfailure hnone]

end Nested
end TextGrammar
