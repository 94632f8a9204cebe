/-
Sets of characters.

A set is kept as its boundaries: the code points where membership changes, in
ascending order.  The first one begins a range, the next one is behind its end, and
so on.  All operations on sets are one sweep over two lists of boundaries, and
`contains_combine` says what it computes.
-/

namespace TextGrammar

/-- An ascending list of numbers, none of them below `lo`. -/
def AscendingFrom : Nat → List Nat → Prop
  | _, [] => True
  | lo, b :: bs => lo ≤ b ∧ AscendingFrom (b + 1) bs

instance decidableAscendingFrom : (lo : Nat) → (bs : List Nat) → Decidable (AscendingFrom lo bs)
  | _, [] => isTrue trivial
  | lo, b :: bs =>
    match decidableAscendingFrom (b + 1) bs with
    | isTrue h => if hb : lo ≤ b then isTrue ⟨hb, h⟩ else isFalse fun h' => hb h'.1
    | isFalse h => isFalse fun h' => h h'.2

theorem ascendingFrom_nil (lo : Nat) : AscendingFrom lo [] := trivial

theorem AscendingFrom.mono {lo lo' : Nat} {bs : List Nat} (h : AscendingFrom lo bs)
    (hlo : lo' ≤ lo) : AscendingFrom lo' bs := by
  cases bs with
  | nil => trivial
  | cons b bs => exact ⟨Nat.le_trans hlo h.1, h.2⟩

structure CharSet where
  boundaries : List Nat
  ascending : AscendingFrom 0 boundaries
deriving DecidableEq, Repr

namespace CharSet

/-! ## Membership -/

/-- Whether `n` is inside, where `s` tells it in front of the first boundary. -/
def inside : List Nat → Bool → Nat → Bool
  | [], s, _ => s
  | b :: bs, s, n => if n < b then s else inside bs (!s) n

def contains (a : CharSet) (c : Char) : Bool := inside a.boundaries false c.toNat

theorem inside_of_lt {lo n : Nat} {bs : List Nat} (h : AscendingFrom lo bs) (hn : n < lo)
    (s : Bool) : inside bs s n = s := by
  cases bs with
  | nil => rfl
  | cons b bs => exact if_pos (Nat.lt_of_lt_of_le hn h.1)

/-! ## One sweep over two lists -/

/-- A boundary at `p` in front of `bs`, if membership changes there. -/
def mark (before behind : Bool) (p : Nat) (bs : List Nat) : List Nat :=
  if before = behind then bs else p :: bs

/-- The sweep where one list has come to its end, with membership `a`. -/
def sweepRest (op : Bool → Bool → Bool) (a : Bool) : List Nat → Bool → List Nat
  | [], _ => []
  | y :: ys, b => mark (op a b) (op a (!b)) y (sweepRest op a ys (!b))

/-- The sweep up to the boundary `x` of the first list and over it.  `beyond` is the
sweep behind it. -/
def sweepTo (op : Bool → Bool → Bool) (a : Bool) (x : Nat)
    (beyond : List Nat → Bool → List Nat) : List Nat → Bool → List Nat
  | [], b => mark (op a b) (op (!a) b) x (beyond [] b)
  | y :: ys, b =>
    if x < y then mark (op a b) (op (!a) b) x (beyond (y :: ys) b)
    else if y < x then mark (op a b) (op a (!b)) y (sweepTo op a x beyond ys (!b))
    else mark (op a b) (op (!a) (!b)) x (beyond ys (!b))

/-- The boundaries of the numbers whose memberships in two sets satisfy `op`. -/
def sweep (op : Bool → Bool → Bool) : List Nat → Bool → List Nat → Bool → List Nat
  | [], a => sweepRest op a
  | x :: xs, a => sweepTo op a x (sweep op xs (!a))

theorem ascendingFrom_mark {lo p : Nat} {bs : List Nat} (hp : lo ≤ p)
    (h : AscendingFrom (p + 1) bs) (before behind : Bool) :
    AscendingFrom lo (mark before behind p bs) := by
  unfold mark
  split
  · exact h.mono (by omega)
  · exact ⟨hp, h⟩

theorem ascendingFrom_sweepRest {op : Bool → Bool → Bool} {a b : Bool} {lo : Nat}
    {ys : List Nat} (hy : AscendingFrom lo ys) :
    AscendingFrom lo (sweepRest op a ys b) := by
  induction ys generalizing lo b with
  | nil => trivial
  | cons y ys ih => exact ascendingFrom_mark hy.1 (ih hy.2) _ _

theorem ascendingFrom_sweep {op : Bool → Bool → Bool} {a b : Bool} {lo : Nat}
    {xs ys : List Nat} (hx : AscendingFrom lo xs) (hy : AscendingFrom lo ys) :
    AscendingFrom lo (sweep op xs a ys b) := by
  induction xs generalizing lo a b ys with
  | nil => exact ascendingFrom_sweepRest hy
  | cons x xs ih =>
    simp only [sweep]
    induction ys generalizing lo b with
    | nil => exact ascendingFrom_mark hx.1 (ih hx.2 (ascendingFrom_nil _)) _ _
    | cons y ys ihy =>
      simp only [sweepTo]
      split
      · next h => exact ascendingFrom_mark hx.1 (ih hx.2 (show AscendingFrom (x + 1) (y :: ys) from ⟨h, hy.2⟩)) _ _
      · next h =>
        split
        · next h' => exact ascendingFrom_mark hy.1 (ihy ⟨h', hx.2⟩ hy.2) _ _
        · next h' =>
          obtain rfl : x = y := by omega
          exact ascendingFrom_mark hx.1 (ih hx.2 hy.2) _ _

theorem inside_mark {p n : Nat} {bs : List Nat} {before behind r : Bool}
    (h : AscendingFrom (p + 1) bs) (hlt : n < p → r = before)
    (hge : p ≤ n → inside bs behind n = r) : inside (mark before behind p bs) before n = r := by
  unfold mark
  by_cases hn : n < p
  · rw [hlt hn]
    split
    · exact inside_of_lt h (by omega) before
    · exact if_pos hn
  · have hge := hge (by omega)
    split
    · next he => rw [he, hge]
    · next he =>
      rw [inside, if_neg hn, ← hge]
      congr 1
      cases before <;> cases behind <;> simp_all

theorem inside_sweepRest {op : Bool → Bool → Bool} {a b : Bool} {lo : Nat} {ys : List Nat}
    (hy : AscendingFrom lo ys) (n : Nat) :
    inside (sweepRest op a ys b) (op a b) n = op a (inside ys b n) := by
  induction ys generalizing lo b with
  | nil => rfl
  | cons y ys ih =>
    refine inside_mark (ascendingFrom_sweepRest hy.2) (fun h => ?_) (fun h => ?_)
    · rw [inside, if_pos h]
    · rw [ih hy.2, inside, if_neg (by omega)]

/-- What a sweep computes. -/
theorem inside_sweep {op : Bool → Bool → Bool} {a b : Bool} {lo : Nat} {xs ys : List Nat}
    (hx : AscendingFrom lo xs) (hy : AscendingFrom lo ys) (n : Nat) :
    inside (sweep op xs a ys b) (op a b) n = op (inside xs a n) (inside ys b n) := by
  induction xs generalizing lo a b ys with
  | nil => exact inside_sweepRest hy n
  | cons x xs ih =>
    induction ys generalizing lo b with
    | nil =>
      refine inside_mark (ascendingFrom_sweep hx.2 (ascendingFrom_nil _)) (fun h => ?_) (fun h => ?_)
      · simp only [inside, if_pos h]
      · have hn : ¬ n < x := by omega
        rw [ih hx.2 (ascendingFrom_nil _)]
        simp only [inside, if_neg hn]
    | cons y ys ihy =>
      simp only [sweep, sweepTo]
      split
      · next hxy =>
        have hy' : AscendingFrom (x + 1) (y :: ys) := ⟨hxy, hy.2⟩
        refine inside_mark (ascendingFrom_sweep hx.2 hy') (fun h => ?_) (fun h => ?_)
        · simp only [inside, if_pos h, if_pos (Nat.lt_trans h hxy)]
        · have hn : ¬ n < x := by omega
          rw [ih hx.2 hy']
          simp only [inside, if_neg hn]
      · next hxy =>
        split
        · next hyx =>
          have hx' : AscendingFrom (y + 1) (x :: xs) := ⟨hyx, hx.2⟩
          have hs : AscendingFrom (y + 1) (sweep op (x :: xs) a ys !b) :=
            ascendingFrom_sweep hx' hy.2
          refine inside_mark hs (fun h => ?_) (fun h => ?_)
          · simp only [inside, if_pos h, if_pos (Nat.lt_trans h hyx)]
          · have hn : ¬ n < y := by omega
            have hrest := ihy (b := !b) hx' hy.2
            simp only [sweep] at hrest
            rw [hrest]
            simp only [inside, if_neg hn]
        · next hyx =>
          obtain rfl : x = y := by omega
          refine inside_mark (ascendingFrom_sweep hx.2 hy.2) (fun h => ?_) (fun h => ?_)
          · simp only [inside, if_pos h]
          · have hn : ¬ n < x := by omega
            rw [ih hx.2 hy.2]
            simp only [inside, if_neg hn]

/-! ## Operations -/

/-- The characters whose memberships in two sets satisfy `op`, which must not hold of
what is in neither. -/
def combine (op : Bool → Bool → Bool) (a b : CharSet) : CharSet :=
  ⟨sweep op a.boundaries false b.boundaries false, ascendingFrom_sweep a.ascending b.ascending⟩

theorem contains_combine {op : Bool → Bool → Bool} (h : op false false = false) (a b : CharSet)
    (c : Char) : (combine op a b).contains c = op (a.contains c) (b.contains c) := by
  have hs : inside (sweep op a.boundaries false b.boundaries false) (op false false) c.toNat =
      op (a.contains c) (b.contains c) := inside_sweep a.ascending b.ascending c.toNat
  rwa [h] at hs

def empty : CharSet := ⟨[], trivial⟩

/-- All characters: the code points without the surrogates. -/
def all : CharSet := ⟨[0, 0xD800, 0xE000, 0x110000], by decide⟩

def union (a b : CharSet) : CharSet := combine or a b

def inter (a b : CharSet) : CharSet := combine and a b

def diff (a b : CharSet) : CharSet := combine (fun x y => x && !y) a b

def symmDiff (a b : CharSet) : CharSet := combine xor a b

def compl (a : CharSet) : CharSet := diff all a

def complIf (negated : Bool) (a : CharSet) : CharSet := if negated then compl a else a

def unionAll (l : List CharSet) : CharSet := l.foldr union empty

/-- The set with the given boundaries.  They must be in ascending order. -/
def ofBoundaries (bs : List Nat) : CharSet :=
  if h : AscendingFrom 0 bs then ⟨bs, h⟩ else empty

/-- The characters in ranges with both ends included, from the least to the greatest
and with gaps between them. -/
def ofRanges (l : List (Nat × Nat)) : CharSet := ofBoundaries (l.flatMap fun r => [r.1, r.2 + 1])

def single (c : Char) : CharSet := ⟨[c.toNat, c.toNat + 1], Nat.zero_le _, Nat.le_refl _, trivial⟩

/-- The characters from `lo` to `hi`, both included. -/
def between (lo hi : Char) : CharSet := inter all (ofRanges [(lo.toNat, hi.toNat)])

/-- The number of ranges, each of which has a boundary at either end. -/
def rangeCount (a : CharSet) : Nat := (a.boundaries.length + 1) / 2

/-- The only character of a set with one character. -/
def single? (a : CharSet) : Option Char :=
  match a.boundaries with
  | [n, m] => if m = n + 1 then some (Char.ofNat n) else none
  | _ => none

theorem contains_union (a b : CharSet) (c : Char) :
    (union a b).contains c = (a.contains c || b.contains c) := contains_combine rfl a b c

theorem contains_inter (a b : CharSet) (c : Char) :
    (inter a b).contains c = (a.contains c && b.contains c) := contains_combine rfl a b c

theorem contains_diff (a b : CharSet) (c : Char) :
    (diff a b).contains c = (a.contains c && !b.contains c) := contains_combine rfl a b c

theorem contains_symmDiff (a b : CharSet) (c : Char) :
    (symmDiff a b).contains c = (a.contains c ^^ b.contains c) := contains_combine rfl a b c

theorem contains_single (c d : Char) : (single c).contains d = decide (d = c) := by
  have h : d = c ↔ d.toNat = c.toNat := ⟨fun h => h ▸ rfl, Char.toNat_inj.1⟩
  simp only [contains, single, inside, h]
  split
  · exact (decide_eq_false (by omega)).symm
  · split
    · exact (decide_eq_true (by omega)).symm
    · exact (decide_eq_false (by omega)).symm

theorem contains_all (c : Char) : all.contains c = true := by
  have h := c.valid
  simp only [UInt32.isValidChar, Nat.isValidChar] at h
  simp only [contains, all, inside, Char.toNat]
  rw [if_neg (Nat.not_lt_zero _)]
  split
  · rfl
  · rw [if_neg (by omega), if_pos (by omega)]
    rfl

theorem contains_compl (a : CharSet) (c : Char) : (compl a).contains c = !a.contains c := by
  rw [compl, contains_diff, contains_all, Bool.true_and]

/-- The boundaries of ascending ranges tell which of them a number is in. -/
theorem inside_flatMap {lo : Nat} {l : List (Nat × Nat)}
    (h : AscendingFrom lo (l.flatMap fun r => [r.1, r.2 + 1])) (n : Nat) :
    inside (l.flatMap fun r => [r.1, r.2 + 1]) false n =
      l.any fun r => decide (r.1 ≤ n ∧ n ≤ r.2) := by
  induction l generalizing lo with
  | nil => rfl
  | cons r l ih =>
    have hrest : AscendingFrom (r.2 + 1 + 1) (l.flatMap fun r => [r.1, r.2 + 1]) := h.2.2
    have hle : r.1 + 1 ≤ r.2 + 1 := h.2.1
    show (if n < r.1 then false else if n < r.2 + 1 then true else
      inside (l.flatMap fun r => [r.1, r.2 + 1]) false n) = _
    rw [List.any_cons, ← ih hrest]
    by_cases hlo : n < r.1
    · have hout := inside_of_lt hrest (show n < r.2 + 1 + 1 by omega) false
      rw [if_pos hlo, hout, decide_eq_false (by omega), Bool.or_false]
    · rw [if_neg hlo]
      by_cases hhi : n < r.2 + 1
      · rw [if_pos hhi, decide_eq_true (by omega), Bool.true_or]
      · rw [if_neg hhi, decide_eq_false (by omega), Bool.false_or]

theorem contains_ofRanges {l : List (Nat × Nat)}
    (h : AscendingFrom 0 (l.flatMap fun r => [r.1, r.2 + 1])) (c : Char) :
    (ofRanges l).contains c = l.any fun r => decide (r.1 ≤ c.toNat ∧ c.toNat ≤ r.2) := by
  rw [contains, ofRanges, ofBoundaries, dif_pos h, inside_flatMap h]

end CharSet
end TextGrammar
