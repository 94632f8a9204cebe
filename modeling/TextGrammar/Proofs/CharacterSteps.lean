/-
From character to character.

The boundaries of a text are the ends of its beginnings.  `next` leads from the start through all
of them in order, over one character a step, and the place found for an offset is one of these.
-/
import TextGrammar.Proofs.Walks

namespace TextGrammar
namespace Text

theorem isBoundary_iff_exists_take {t : Text} {n : Nat} :
    t.IsBoundary n ↔ ∃ k, k ≤ t.length ∧ n = size (t.take k) := by
  constructor
  · rintro ⟨a, b, rfl, rfl⟩
    refine ⟨a.length, ?_, ?_⟩
    · rw [List.length_append]
      omega
    · rw [List.take_left]
  · rintro ⟨k, -, rfl⟩
    exact ⟨t.take k, t.drop k, (List.take_append_drop k t).symm, rfl⟩

theorem size_take_succ {t : Text} {k : Nat} (h : k < t.length) :
    size (t.take (k + 1)) = size (t.take k) + size [t[k]] := by
  rw [List.take_succ_eq_append_getElem h, size_append]

theorem size_take_lt {t : Text} {j k : Nat} (hjk : j < k) (hk : k ≤ t.length) :
    size (t.take j) < size (t.take k) := by
  obtain ⟨d, rfl⟩ := Nat.exists_eq_add_of_lt hjk
  have hne : (t.drop j).take (d + 1) ≠ [] := by
    rw [ne_eq, List.take_eq_nil_iff, List.drop_eq_nil_iff]
    omega
  have hpos := size_pos hne
  rw [Nat.add_assoc, List.take_add, size_append]
  omega

theorem IsCeil.mono {t : Text} {m n i j : Nat} (hi : t.IsCeil m i) (hj : t.IsCeil n j)
    (hmn : m ≤ n) : i ≤ j := by
  refine hi.least hj.isBoundary ?_
  have hle := hj.le
  omega

/-- A boundary is the place found for it. -/
theorem IsBoundary.isCeil {t : Text} {n : Nat} (h : t.IsBoundary n) : t.IsCeil n n := by
  have hsize := h.le_size
  refine ⟨h, Nat.min_le_left _ _, fun _ hle => ?_⟩
  rwa [Nat.min_eq_left hsize] at hle

/-- No more than the three last bytes of a character lie in front of the place that is found. -/
theorem ceil_le (t : Text) (n : Nat) : t.ceil n ≤ min n t.size + 3 := by
  fun_induction ceil t n with
  | case1 n => exact Nat.zero_le _
  | case2 c t => exact Nat.zero_le _
  | case3 c t n ih =>
    have hfour := c.utf8Size_le_four
    simp only [size]
    by_cases hle : c.utf8Size ≤ n + 1
    · omega
    · have hzero : n + 1 - c.utf8Size = 0 := by omega
      rw [hzero] at ih ⊢
      have hstart : ceil t 0 = 0 := by cases t <;> rfl
      omega

/-- Counting up from an offset, or from the end if that is nearer, takes four rounds at the most
to find the place for it. -/
theorem cutFrom?_eq_ceil (t : Text) (n : Nat) {rounds : Nat} (hrounds : 4 ≤ rounds) :
    t.cutFrom? rounds (min n t.size) = some (t.ceil n) := by
  have hceil := t.isCeil_ceil n
  have hle := t.ceil_le n
  exact cutFrom?_eq_some hceil.isBoundary hceil.le (fun _ hk => hceil.least hk) (by omega)

end Text

namespace Cursor

/-- The place behind the first `k` characters. -/
def behind (t : Text) (k : Nat) : Cursor := ⟨t, Text.size (t.take k)⟩

variable {t : Text} {k : Nat}

theorem behind_zero (t : Text) : behind t 0 = .start t := rfl

theorem behind_of_length_le (h : t.length ≤ k) : behind t k = ⟨t, t.size⟩ := by
  rw [behind, List.take_of_length_le h]

theorem rest?_behind (t : Text) (k : Nat) : (behind t k).rest? = some (t.drop k) :=
  rest?_eq_some_iff.mpr ⟨t.take k, (List.take_append_drop k t).symm, rfl⟩

theorem rest?_behind_of_lt (h : k < t.length) :
    (behind t k).rest? = some ([t[k]] ++ t.drop (k + 1)) := by
  rw [rest?_behind, List.drop_eq_getElem_cons h]
  rfl

theorem advance_behind (h : k < t.length) :
    (behind t k).advance (Text.size [t[k]]) = behind t (k + 1) := by
  rw [advance_eq_of_rest? (rest?_behind_of_lt h), behind, behind, Text.size_take_succ h]

theorem next?_behind (t : Text) (k : Nat) : (behind t k).next? = some (behind t (k + 1)) := by
  by_cases h : k < t.length
  · rw [next?_of_rest?_cons (rest?_behind_of_lt h), advance_behind h]
  · have hrest : (behind t k).rest? = some [] := by
      rw [rest?_behind, List.drop_eq_nil_of_le (by omega)]
    rw [next?_of_rest?_nil hrest, behind_of_length_le (by omega), behind_of_length_le (by omega)]

theorem peek?_behind (t : Text) (k : Nat) : (behind t k).peek? = some t[k]? := by
  rw [peek?_of_rest? (rest?_behind t k), List.head?_drop]

theorem sliceTo?_behind (h : k < t.length) :
    (behind t k).sliceTo? (behind t (k + 1)) = some [t[k]] := by
  rw [← advance_behind h]
  exact sliceTo?_advance (rest?_behind_of_lt h)

theorem atEnd_behind_iff : (behind t k).atEnd = true ↔ t.length ≤ k := by
  rw [← rest?_eq_some_nil_iff, rest?_behind, Option.some.injEq, List.drop_eq_nil_iff]

/-- Every place found for an offset is behind some number of characters. -/
theorem exists_behind_eq {c : Cursor} (hc : c.OnBoundary) :
    ∃ k, k ≤ c.text.length ∧ c = behind c.text k := by
  obtain ⟨k, hk, hoff⟩ := Text.isBoundary_iff_exists_take.mp hc
  exact ⟨k, hk, congrArg (Cursor.mk c.text) hoff⟩

theorem isBoundary_iff_exists_behind {n : Nat} :
    t.IsBoundary n ↔ ∃ k, behind t k = ⟨t, n⟩ := by
  constructor
  · intro h
    obtain ⟨k, -, hk⟩ := exists_behind_eq (c := ⟨t, n⟩) h
    exact ⟨k, hk.symm⟩
  · rintro ⟨k, hk⟩
    have hb := onBoundary_of_rest? (rest?_behind t k)
    rwa [hk] at hb

/-- The slices between the places are the characters. -/
theorem map_sliceTo?_behind (t : Text) :
    ((List.range t.length).map fun k => (behind t k).sliceTo? (behind t (k + 1))) =
      t.map (fun ch => some [ch]) := by
  refine List.ext_getElem (by simp) fun k hk hk' => ?_
  rw [List.length_map] at hk'
  simp only [List.getElem_map, List.getElem_range, sliceTo?_behind hk']

theorem flatMap_sliceTo?_behind (t : Text) :
    ((List.range t.length).flatMap fun k =>
      ((behind t k).sliceTo? (behind t (k + 1))).getD []) = t := by
  calc
    _ = (t.map fun ch => some [ch]).flatMap fun s => s.getD [] := by
      rw [← map_sliceTo?_behind, List.flatMap_map]
    _ = t.flatMap fun ch => [ch] := by
      rw [List.flatMap_map]
      rfl
    _ = t := List.flatMap_singleton' t

/-- The induction is on the steps that are left, from any place on the way. -/
theorem run?_replicate_next (saved : Cursor) (j k : Nat) :
    Walk.run? ⟨behind t j, saved⟩ (List.replicate k .next) = some ⟨behind t (j + k), saved⟩ := by
  induction k generalizing j with
  | zero => rfl
  | succ k ih =>
    have hstep : Walk.step? ⟨behind t j, saved⟩ .next = some ⟨behind t (j + 1), saved⟩ := by
      rw [Walk.step?, next?_behind]
      rfl
    rw [List.replicate_succ, Walk.run?, hstep, Option.bind_some, ih, Nat.add_assoc, Nat.add_comm 1]

/-- The place for an offset is the first boundary that is not before it.  Counting up from the
offset, or from the end if that is nearer, one comes to it, and that after three bytes at the most.
It does not go back when the offset grows, and a boundary is its own place.  And `next`, taken
again and again from the start, visits the boundaries and nothing else, each further on than the
one before it.  It is at the end after as many steps as there are characters, and stays there.  The
characters in front of it on its way, and the slices that it steps over, are those of the text in
order.  The place for an offset is on that way. -/
theorem next_visits_boundaries (t : Text) :
    (∀ n, (ofOffset t n).text = t ∧ t.IsCeil n (ofOffset t n).offset ∧
      (ofOffset t n).offset ≤ min n t.size + 3) ∧
    (∀ n rounds, 4 ≤ rounds → t.cutFrom? rounds (min n t.size) = some (ofOffset t n).offset) ∧
    (∀ m n, m ≤ n → (ofOffset t m).offset ≤ (ofOffset t n).offset) ∧
    (∀ c : Cursor, c.text = t → c.OnBoundary → ofOffset t c.offset = c) ∧
    ∃ visit : Nat → Cursor,
      (∀ k, (Walk.beginAt (.start t)).run? (List.replicate k .next) =
        some ⟨visit k, .start t⟩) ∧
      (∀ j k, j < k → k ≤ t.length → (visit j).offset < (visit k).offset) ∧
      (∀ n, t.IsBoundary n ↔ ∃ k, visit k = ⟨t, n⟩) ∧
      (∀ k, (visit k).atEnd = true ↔ t.length ≤ k) ∧
      (∀ k, t.length ≤ k → visit k = ⟨t, t.size⟩) ∧
      (∀ k, (visit k).peek? = some t[k]?) ∧
      ((List.range t.length).map fun k => (visit k).sliceTo? (visit (k + 1))) =
        t.map (fun ch => some [ch]) ∧
      ((List.range t.length).flatMap fun k =>
        ((visit k).sliceTo? (visit (k + 1))).getD []) = t ∧
      ∀ n, ∃ k, k ≤ t.length ∧ ofOffset t n = visit k := by
  refine ⟨fun n => ⟨rfl, t.isCeil_ceil n, t.ceil_le n⟩,
    fun n _ hrounds => t.cutFrom?_eq_ceil n hrounds,
    fun m n hmn => (t.isCeil_ceil m).mono (t.isCeil_ceil n) hmn, ?_, behind t, ?_,
    fun j k => Text.size_take_lt, fun n => isBoundary_iff_exists_behind,
    fun k => atEnd_behind_iff, fun k => behind_of_length_le, peek?_behind t,
    map_sliceTo?_behind t, flatMap_sliceTo?_behind t,
    fun n => exists_behind_eq (onBoundary_ofOffset t n)⟩
  · rintro c rfl hc
    exact congrArg (Cursor.mk c.text) ((c.text.isCeil_ceil c.offset).unique hc.isCeil)
  · intro k
    rw [Walk.beginAt, ← behind_zero, run?_replicate_next, Nat.zero_add]

/-- Offsets inside a character of four bytes lead behind it. -/
example : ofOffset ['a', '🦀', 'b'] 2 = behind ['a', '🦀', 'b'] 2 ∧
    ofOffset ['a', '🦀', 'b'] 9 = behind ['a', '🦀', 'b'] 3 := ⟨rfl, rfl⟩

end Cursor
end TextGrammar
