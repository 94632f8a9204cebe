/-
Parsing expressions and their derivations.

`Peg.Derives` is the textbook relation: an expression, tried at an offset of a text,
succeeds and ends at an offset, or fails.  Nothing is derived where recognition would not
come to an end: neither for a rule that calls itself in place, nor for a repetition of what
consumes nothing.

`DerivesWithin` bounds how deeply rules are nested in a derivation.  As derivations are
finite, each of them is within some bound.
-/
import TextGrammar.Engine

namespace TextGrammar

/-- What is recognised without recourse to other expressions. -/
inductive Terminal where
  | literal (text : Text)
  | pattern (p : Pattern)
  /-- Any one character. -/
  | any

/-- The part of `rest` that a terminal matches, where `before` is the character in front. -/
def Terminal.match? (before : Option Char) (rest : Text) : Terminal → Option Text
  | literal text => if text.isPrefixOf rest then some text else none
  | pattern p => p.matched? before rest
  | any => rest.head?.map ([·])

inductive Peg (R : Type) where
  | empty
  | terminal (x : Terminal)
  | nonterminal (r : R)
  | seq (a b : Peg R)
  | choice (a b : Peg R)
  | star (e : Peg R)
  | notAhead (e : Peg R)

namespace Peg

variable {R : Type}

/-! ## Derived expressions -/

def fail : Peg R := notAhead empty

def endOfInput : Peg R := notAhead (terminal .any)

def plus (e : Peg R) : Peg R := seq e (star e)

def optional (e : Peg R) : Peg R := choice e empty

def lookAhead (e : Peg R) : Peg R := notAhead (notAhead e)

def whitespace (E : Engine) : Peg R := terminal (.pattern (E.leaf .whitespace))

def choices : List (Peg R) → Peg R
  | [] => fail
  | [e] => e
  | e :: es => choice e (choices es)

def seqs : List (Peg R) → Peg R
  | [] => empty
  | e :: es => seq e (seqs es)

/-! ## Derivations -/

/-- With rules `G`, an expression tried at an offset of `t` ends at an offset, or fails. -/
inductive Derives (G : R → Peg R) (t : Text) : Peg R → Nat → Option Nat → Prop where
  | empty {i : Nat} : Derives G t empty i (some i)
  | terminal {x : Terminal} {a b : Text} : t = a ++ b →
    Derives G t (terminal x) a.size ((x.match? a.getLast? b).map fun m => a.size + m.size)
  | nonterminal {r : R} {i : Nat} {o : Option Nat} :
    Derives G t (G r) i o → Derives G t (nonterminal r) i o
  | seq {a b : Peg R} {i j : Nat} {o : Option Nat} :
    Derives G t a i (some j) → Derives G t b j o → Derives G t (seq a b) i o
  | seq_none {a b : Peg R} {i : Nat} : Derives G t a i none → Derives G t (seq a b) i none
  | choice {a b : Peg R} {i j : Nat} :
    Derives G t a i (some j) → Derives G t (choice a b) i (some j)
  | choice_none {a b : Peg R} {i : Nat} {o : Option Nat} :
    Derives G t a i none → Derives G t b i o → Derives G t (choice a b) i o
  | star {e : Peg R} {i j k : Nat} :
    Derives G t e i (some j) → Derives G t (star e) j (some k) → Derives G t (star e) i (some k)
  | star_none {e : Peg R} {i : Nat} : Derives G t e i none → Derives G t (star e) i (some i)
  | notAhead {e : Peg R} {i j : Nat} :
    Derives G t e i (some j) → Derives G t (notAhead e) i none
  | notAhead_none {e : Peg R} {i : Nat} :
    Derives G t e i none → Derives G t (notAhead e) i (some i)

/-- A derivation in which at most `n` rules are nested. -/
inductive DerivesWithin (G : R → Peg R) (t : Text) :
    Nat → Peg R → Nat → Option Nat → Prop where
  | empty {n i : Nat} : DerivesWithin G t n empty i (some i)
  | terminal {n : Nat} {x : Terminal} {a b : Text} : t = a ++ b →
    DerivesWithin G t n (terminal x) a.size
      ((x.match? a.getLast? b).map fun m => a.size + m.size)
  | nonterminal {n : Nat} {r : R} {i : Nat} {o : Option Nat} :
    DerivesWithin G t n (G r) i o → DerivesWithin G t (n + 1) (nonterminal r) i o
  | seq {n : Nat} {a b : Peg R} {i j : Nat} {o : Option Nat} :
    DerivesWithin G t n a i (some j) → DerivesWithin G t n b j o →
    DerivesWithin G t n (seq a b) i o
  | seq_none {n : Nat} {a b : Peg R} {i : Nat} :
    DerivesWithin G t n a i none → DerivesWithin G t n (seq a b) i none
  | choice {n : Nat} {a b : Peg R} {i j : Nat} :
    DerivesWithin G t n a i (some j) → DerivesWithin G t n (choice a b) i (some j)
  | choice_none {n : Nat} {a b : Peg R} {i : Nat} {o : Option Nat} :
    DerivesWithin G t n a i none → DerivesWithin G t n b i o →
    DerivesWithin G t n (choice a b) i o
  | star {n : Nat} {e : Peg R} {i j k : Nat} :
    DerivesWithin G t n e i (some j) → DerivesWithin G t n (star e) j (some k) →
    DerivesWithin G t n (star e) i (some k)
  | star_none {n : Nat} {e : Peg R} {i : Nat} :
    DerivesWithin G t n e i none → DerivesWithin G t n (star e) i (some i)
  | notAhead {n : Nat} {e : Peg R} {i j : Nat} :
    DerivesWithin G t n e i (some j) → DerivesWithin G t n (notAhead e) i none
  | notAhead_none {n : Nat} {e : Peg R} {i : Nat} :
    DerivesWithin G t n e i none → DerivesWithin G t n (notAhead e) i (some i)

variable {G : R → Peg R} {t : Text} {n m i : Nat} {e a b : Peg R} {o : Option Nat}

theorem DerivesWithin.mono (h : DerivesWithin G t n e i o) (hle : n ≤ m) :
    DerivesWithin G t m e i o := by
  induction h generalizing m with
  | empty => exact .empty
  | terminal ht => exact .terminal ht
  | nonterminal _ ih =>
    obtain ⟨k, rfl⟩ : ∃ k, m = k + 1 := ⟨m - 1, by omega⟩
    exact .nonterminal (ih (by omega))
  | seq _ _ iha ihb => exact .seq (iha hle) (ihb hle)
  | seq_none _ ih => exact .seq_none (ih hle)
  | choice _ ih => exact .choice (ih hle)
  | choice_none _ _ iha ihb => exact .choice_none (iha hle) (ihb hle)
  | star _ _ ihe ih => exact .star (ihe hle) (ih hle)
  | star_none _ ih => exact .star_none (ih hle)
  | notAhead _ ih => exact .notAhead (ih hle)
  | notAhead_none _ ih => exact .notAhead_none (ih hle)

theorem DerivesWithin.derives (h : DerivesWithin G t n e i o) : Derives G t e i o := by
  induction h with
  | empty => exact .empty
  | terminal ht => exact .terminal ht
  | nonterminal _ ih => exact .nonterminal ih
  | seq _ _ iha ihb => exact .seq iha ihb
  | seq_none _ ih => exact .seq_none ih
  | choice _ ih => exact .choice ih
  | choice_none _ _ iha ihb => exact .choice_none iha ihb
  | star _ _ ihe ih => exact .star ihe ih
  | star_none _ ih => exact .star_none ih
  | notAhead _ ih => exact .notAhead ih
  | notAhead_none _ ih => exact .notAhead_none ih

/-- Two derivations with rules nested as deeply as in the deeper one. -/
theorem exists_common_bound {a b : Peg R} {i j : Nat} {o o' : Option Nat}
    (ha : ∃ n, DerivesWithin G t n a i o) (hb : ∃ n, DerivesWithin G t n b j o') :
    ∃ n, DerivesWithin G t n a i o ∧ DerivesWithin G t n b j o' := by
  obtain ⟨n, ha⟩ := ha
  obtain ⟨m, hb⟩ := hb
  exact ⟨max n m, ha.mono (Nat.le_max_left n m), hb.mono (Nat.le_max_right n m)⟩

theorem Derives.exists_within (h : Derives G t e i o) : ∃ n, DerivesWithin G t n e i o := by
  induction h with
  | empty => exact ⟨0, .empty⟩
  | terminal ht => exact ⟨0, .terminal ht⟩
  | nonterminal _ ih =>
    obtain ⟨n, h⟩ := ih
    exact ⟨n + 1, .nonterminal h⟩
  | seq _ _ iha ihb =>
    obtain ⟨n, ha, hb⟩ := exists_common_bound iha ihb
    exact ⟨n, .seq ha hb⟩
  | seq_none _ ih =>
    obtain ⟨n, h⟩ := ih
    exact ⟨n, .seq_none h⟩
  | choice _ ih =>
    obtain ⟨n, h⟩ := ih
    exact ⟨n, .choice h⟩
  | choice_none _ _ iha ihb =>
    obtain ⟨n, ha, hb⟩ := exists_common_bound iha ihb
    exact ⟨n, .choice_none ha hb⟩
  | star _ _ ihe ih =>
    obtain ⟨n, he, h⟩ := exists_common_bound ihe ih
    exact ⟨n, .star he h⟩
  | star_none _ ih =>
    obtain ⟨n, h⟩ := ih
    exact ⟨n, .star_none h⟩
  | notAhead _ ih =>
    obtain ⟨n, h⟩ := ih
    exact ⟨n, .notAhead h⟩
  | notAhead_none _ ih =>
    obtain ⟨n, h⟩ := ih
    exact ⟨n, .notAhead_none h⟩

theorem derives_iff_exists_within : Derives G t e i o ↔ ∃ n, DerivesWithin G t n e i o :=
  ⟨Derives.exists_within, fun ⟨_, h⟩ => h.derives⟩

/-! ## What the last step of a derivation can be -/

theorem within_empty_iff : DerivesWithin G t n empty i o ↔ o = some i := by
  constructor
  · intro h
    cases h
    rfl
  · intro h
    subst h
    exact .empty

theorem within_terminal_iff {x : Terminal} : DerivesWithin G t n (terminal x) i o ↔
    ∃ a b, t = a ++ b ∧ i = a.size ∧ o = (x.match? a.getLast? b).map fun m => a.size + m.size := by
  constructor
  · intro h
    cases h with
    | terminal ht => exact ⟨_, _, ht, rfl, rfl⟩
  · intro h
    obtain ⟨a, b, ht, rfl, rfl⟩ := h
    exact .terminal ht

theorem not_within_zero_nonterminal {r : R} : ¬ DerivesWithin G t 0 (nonterminal r) i o := by
  intro h
  cases h

theorem within_succ_nonterminal_iff {r : R} :
    DerivesWithin G t (n + 1) (nonterminal r) i o ↔ DerivesWithin G t n (G r) i o := by
  constructor
  · intro h
    cases h with
    | nonterminal h => exact h
  · exact .nonterminal

theorem within_seq_iff : DerivesWithin G t n (seq a b) i o ↔
    (∃ j, DerivesWithin G t n a i (some j) ∧ DerivesWithin G t n b j o) ∨
      (DerivesWithin G t n a i none ∧ o = none) := by
  constructor
  · intro h
    cases h with
    | seq ha hb => exact .inl ⟨_, ha, hb⟩
    | seq_none ha => exact .inr ⟨ha, rfl⟩
  · intro h
    obtain ⟨j, ha, hb⟩ | ⟨ha, rfl⟩ := h
    · exact .seq ha hb
    · exact .seq_none ha

theorem within_choice_iff : DerivesWithin G t n (choice a b) i o ↔
    (∃ j, DerivesWithin G t n a i (some j) ∧ o = some j) ∨
      (DerivesWithin G t n a i none ∧ DerivesWithin G t n b i o) := by
  constructor
  · intro h
    cases h with
    | choice ha => exact .inl ⟨_, ha, rfl⟩
    | choice_none ha hb => exact .inr ⟨ha, hb⟩
  · intro h
    obtain ⟨j, ha, rfl⟩ | ⟨ha, hb⟩ := h
    · exact .choice ha
    · exact .choice_none ha hb

theorem not_within_star_none : ¬ DerivesWithin G t n (star e) i none := by
  intro h
  cases h

/-- A repetition cannot fail, so what follows an item ends as the whole does. -/
theorem within_star_iff : DerivesWithin G t n (star e) i o ↔
    (∃ j, DerivesWithin G t n e i (some j) ∧ DerivesWithin G t n (star e) j o) ∨
      (DerivesWithin G t n e i none ∧ o = some i) := by
  constructor
  · intro h
    cases h with
    | star he h => exact .inl ⟨_, he, h⟩
    | star_none he => exact .inr ⟨he, rfl⟩
  · intro h
    obtain ⟨j, he, h⟩ | ⟨he, rfl⟩ := h
    · cases o with
      | none => exact absurd h not_within_star_none
      | some k => exact .star he h
    · exact .star_none he

theorem within_notAhead_iff : DerivesWithin G t n (notAhead e) i o ↔
    (∃ j, DerivesWithin G t n e i (some j) ∧ o = none) ∨
      (DerivesWithin G t n e i none ∧ o = some i) := by
  constructor
  · intro h
    cases h with
    | notAhead he => exact .inl ⟨_, he, rfl⟩
    | notAhead_none he => exact .inr ⟨he, rfl⟩
  · intro h
    obtain ⟨j, he, rfl⟩ | ⟨he, rfl⟩ := h
    · exact .notAhead he
    · exact .notAhead_none he

theorem within_lookAhead_iff : DerivesWithin G t n (lookAhead e) i o ↔
    (∃ j, DerivesWithin G t n e i (some j) ∧ o = some i) ∨
      (DerivesWithin G t n e i none ∧ o = none) := by
  rw [lookAhead, within_notAhead_iff, or_comm]
  refine or_congr ?_ ?_
  · simp [within_notAhead_iff (o := none)]
  · simp [within_notAhead_iff (o := some _)]

/-- Where the item consumes nothing and cannot do otherwise, no repetition is derived: it
would have to contain itself. -/
theorem not_within_star_of_zero (h : DerivesWithin G t n e i (some i))
    (hunique : ∀ o, DerivesWithin G t n e i o → o = some i) :
    ¬ DerivesWithin G t n (star e) i o := by
  intro hstar
  generalize hx : star e = x at hstar
  induction hstar with
  | star he _ _ ih =>
    cases hx
    cases hunique _ he
    exact ih h hunique rfl
  | star_none he =>
    cases hx
    cases hunique _ he
  | _ => cases hx

/-- An item with a repetition behind it does not fail once the item is there. -/
theorem within_optional_seq_star_iff :
    DerivesWithin G t n (optional (seq a (star b))) i o ↔
      (∃ j, DerivesWithin G t n a i (some j) ∧ DerivesWithin G t n (star b) j o) ∨
        (DerivesWithin G t n a i none ∧ o = some i) := by
  rw [optional, within_choice_iff]
  constructor
  · intro h
    obtain ⟨k, hseq, rfl⟩ | ⟨hseq, hempty⟩ := h
    · obtain h | ⟨-, hk⟩ := within_seq_iff.mp hseq
      · exact .inl h
      · cases hk
    · obtain ⟨j, -, hstar⟩ | ⟨ha, -⟩ := within_seq_iff.mp hseq
      · exact absurd hstar not_within_star_none
      · exact .inr ⟨ha, within_empty_iff.mp hempty⟩
  · intro h
    obtain ⟨j, ha, hstar⟩ | ⟨ha, rfl⟩ := h
    · cases o with
      | none => exact absurd hstar not_within_star_none
      | some k => exact .inl ⟨k, .seq ha hstar, rfl⟩
    · exact .inr ⟨.seq_none ha, .empty⟩

end Peg
end TextGrammar
