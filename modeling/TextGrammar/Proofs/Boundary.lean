/-
Offsets between characters, and the cursors that stand there.

`Text.IsBoundary` says it with the parts of a text on the two sides of an offset.  Cutting
a text succeeds at these offsets and nowhere else.  `Cursor.Reaches` is what every parser
keeps: from a cursor on a boundary it gets only to boundaries of the same text that are
not behind the cursor.
-/
import TextGrammar.Cursor

namespace TextGrammar
namespace Text

/-- An offset between two characters of a text, or at one of its ends. -/
def IsBoundary (t : Text) (n : Nat) : Prop := ∃ a b, t = a ++ b ∧ n = size a

theorem isBoundary_zero (t : Text) : IsBoundary t 0 := ⟨[], t, rfl, rfl⟩

theorem IsBoundary.le_size {t : Text} {n : Nat} (h : t.IsBoundary n) : n ≤ t.size := by
  obtain ⟨a, b, rfl, rfl⟩ := h
  rw [size_append]
  omega

theorem IsBoundary.append {s : Text} {n : Nat} (h : s.IsBoundary n) (u : Text) :
    IsBoundary (u ++ s) (u.size + n) := by
  obtain ⟨a, b, rfl, rfl⟩ := h
  exact ⟨u ++ a, b, (List.append_assoc u a b).symm, (size_append u a).symm⟩

theorem size_pos {t : Text} (h : t ≠ []) : 0 < t.size := by
  cases t with
  | nil => exact absurd rfl h
  | cons c t =>
    have hc := c.utf8Size_pos
    simp only [size]
    omega

theorem length_le_size (t : Text) : t.length ≤ t.size := by
  induction t with
  | nil => exact Nat.le_refl 0
  | cons c t ih =>
    have hpos := c.utf8Size_pos
    simp only [List.length_cons, size]
    omega

theorem eq_nil_of_size {t : Text} (h : t.size = 0) : t = [] := by
  by_cases ht : t = []
  · exact ht
  · have hpos := size_pos ht
    omega

/-! ## Cutting -/

theorem dropBytes?_eq_some_iff {t r : Text} {n : Nat} :
    t.dropBytes? n = some r ↔ ∃ a, t = a ++ r ∧ n = size a := by
  constructor
  · intro h
    fun_induction dropBytes? t n with
    | case1 t => exact ⟨[], by simpa using h, rfl⟩
    | case2 n => cases h
    | case3 c t n hle ih =>
      obtain ⟨a, rfl, hn⟩ := ih h
      refine ⟨c :: a, rfl, ?_⟩
      simp only [size]
      omega
    | case4 c t n hle => cases h
  · intro h
    obtain ⟨a, rfl, rfl⟩ := h
    exact dropBytes?_append a r

theorem IsBoundary.exists_dropBytes? {t : Text} {n : Nat} (h : t.IsBoundary n) :
    ∃ r, t.dropBytes? n = some r := by
  obtain ⟨a, b, ht, hn⟩ := h
  exact ⟨b, dropBytes?_eq_some_iff.mpr ⟨a, ht, hn⟩⟩

/-- Two boundaries in order cut a text into three parts. -/
theorem IsBoundary.exists_parts {t : Text} {i j : Nat} (hi : t.IsBoundary i)
    (hj : t.IsBoundary j) (hij : i ≤ j) :
    ∃ a b r, t = a ++ (b ++ r) ∧ i = size a ∧ j = size a + size b := by
  obtain ⟨a, r, rfl, rfl⟩ := hi
  obtain ⟨a', r', heq, rfl⟩ := hj
  obtain ⟨b, rfl, rfl⟩ | ⟨b, rfl, rfl⟩ := List.append_eq_append_iff.mp heq
  · exact ⟨a, b, r', rfl, rfl, size_append a b⟩
  · -- The second boundary is in front of the first, so nothing lies between them.
    have hb : size b = 0 := by
      rw [size_append] at hij
      omega
    have hnil := eq_nil_of_size hb
    subst hnil
    exact ⟨a' ++ [], [], r, rfl, rfl, by simp [size]⟩

theorem slice?_append (a b r : Text) :
    slice? (a ++ (b ++ r)) (size a) (size a + size b) = some b := by
  have hle : size a ≤ size a + size b := Nat.le_add_right _ _
  rw [slice?, if_pos hle, dropBytes?_append, Option.bind_some, Nat.add_sub_cancel_left,
    takeBytes?_append]

theorem takeBytes?_eq_some_iff {t s : Text} {n : Nat} :
    t.takeBytes? n = some s ↔ ∃ r, t = s ++ r ∧ n = size s := by
  constructor
  · intro h
    fun_induction takeBytes? t n generalizing s with
    | case1 t =>
      cases h
      exact ⟨t, rfl, rfl⟩
    | case2 n => cases h
    | case3 c t n hle ih =>
      obtain ⟨u, hu, rfl⟩ := Option.map_eq_some_iff.mp h
      obtain ⟨r, rfl, hn⟩ := ih hu
      refine ⟨r, rfl, ?_⟩
      simp only [size]
      omega
    | case4 c t n hle => cases h
  · intro h
    obtain ⟨r, rfl, rfl⟩ := h
    exact takeBytes?_append s r

theorem slice?_eq_some_iff {t s : Text} {i j : Nat} :
    t.slice? i j = some s ↔
      ∃ a r, t = a ++ (s ++ r) ∧ i = size a ∧ j = size a + size s := by
  constructor
  · intro h
    by_cases hij : i ≤ j
    · rw [slice?, if_pos hij] at h
      obtain ⟨u, hu, hs⟩ := Option.bind_eq_some_iff.mp h
      obtain ⟨a, rfl, rfl⟩ := dropBytes?_eq_some_iff.mp hu
      obtain ⟨r, rfl, hsize⟩ := takeBytes?_eq_some_iff.mp hs
      exact ⟨a, r, rfl, rfl, by omega⟩
    · rw [slice?, if_neg hij] at h
      cases h
  · intro h
    obtain ⟨a, r, rfl, rfl, rfl⟩ := h
    exact slice?_append a s r

/-- Between two offsets in order a text can be cut unless one of them is inside a character. -/
theorem slice?_eq_none_iff {t : Text} {i j : Nat} (hij : i ≤ j) :
    t.slice? i j = none ↔ ¬ (t.IsBoundary i ∧ t.IsBoundary j) := by
  constructor
  · intro h hboth
    obtain ⟨a, b, r, rfl, rfl, rfl⟩ := hboth.1.exists_parts hboth.2 hij
    rw [slice?_append] at h
    cases h
  · intro h
    cases hs : t.slice? i j with
    | none => rfl
    | some s =>
      obtain ⟨a, r, rfl, rfl, rfl⟩ := slice?_eq_some_iff.mp hs
      have hsize : size a + size s = size (a ++ s) := (size_append a s).symm
      exact absurd ⟨⟨a, s ++ r, rfl, rfl⟩, a ++ s, r, (List.append_assoc a s r).symm, hsize⟩ h

/-- What stands on the two sides of an offset. -/
theorem splitAt?_append (before : Option Char) (a r : Text) :
    splitAt? before (a ++ r) (size a) = some (a.getLast?.or before, r) := by
  induction a generalizing before with
  | nil => cases r <;> rfl
  | cons c a ih =>
    have hpos := c.utf8Size_pos
    obtain ⟨n, hn⟩ : ∃ n, c.utf8Size + size a = n + 1 := ⟨c.utf8Size + size a - 1, by omega⟩
    have hle : c.utf8Size ≤ n + 1 := by omega
    have hsub : n + 1 - c.utf8Size = size a := by omega
    simp only [List.cons_append, size, hn, splitAt?, hle, if_true, hsub, ih]
    cases hlast : a.getLast? with
    | none =>
      rw [List.getLast?_eq_none_iff] at hlast
      subst hlast
      rfl
    | some d => simp [List.getLast?_cons, hlast]

theorem splitAt?_map_snd (before : Option Char) (t : Text) (n : Nat) :
    (splitAt? before t n).map Prod.snd = t.dropBytes? n := by
  fun_induction splitAt? before t n with
  | case1 before t => exact (dropBytes?_zero t).symm
  | case2 before n => rfl
  | case3 before c t n hle ih => simpa only [dropBytes?, hle, if_true] using ih
  | case4 before c t n hle => simp only [dropBytes?, hle, if_false, Option.map_none]

/-! ## The next boundary -/

theorem isBoundary_ceil (t : Text) (n : Nat) : t.IsBoundary (t.ceil n) := by
  fun_induction ceil t n with
  | case1 n => exact isBoundary_zero []
  | case2 c t => exact isBoundary_zero (c :: t)
  | case3 c t n ih => exact ih.append [c]

/-- The first boundary that is not before an offset, or the end for an offset behind it. -/
structure IsCeil (t : Text) (n m : Nat) : Prop where
  isBoundary : t.IsBoundary m
  le : min n t.size ≤ m
  least {k : Nat} : t.IsBoundary k → min n t.size ≤ k → m ≤ k

theorem IsCeil.unique {t : Text} {n m m' : Nat} (h : t.IsCeil n m) (h' : t.IsCeil n m') :
    m = m' :=
  Nat.le_antisymm (h.least h'.isBoundary h'.le) (h'.least h.isBoundary h.le)

theorem isCeil_ceil (t : Text) (n : Nat) : t.IsCeil n (t.ceil n) := by
  refine ⟨isBoundary_ceil t n, ?_, ?_⟩
  · fun_induction ceil t n with
    | case1 n => exact Nat.min_le_right n 0
    | case2 c t => exact Nat.min_le_left 0 _
    | case3 c t n ih =>
      have hpos := c.utf8Size_pos
      simp only [size]
      omega
  · fun_induction ceil t n with
    | case1 n => exact fun _ _ => Nat.zero_le _
    | case2 c t => exact fun _ _ => Nat.zero_le _
    | case3 c t n ih =>
      intro k hk hle
      have hpos := c.utf8Size_pos
      simp only [size] at hle
      obtain ⟨a, b, heq, rfl⟩ := hk
      cases a with
      | nil =>
        simp only [size] at hle
        omega
      | cons d a =>
        obtain ⟨rfl, rfl⟩ := List.cons.inj heq
        simp only [size] at hle ⊢
        have hrest := ih ⟨a, b, rfl, rfl⟩ (by omega)
        omega

/-! ## Counting up to it -/

theorem isCut_iff {t : Text} {n : Nat} : t.isCut n = true ↔ t.IsBoundary n := by
  rw [isCut, Option.isSome_iff_exists]
  constructor
  · rintro ⟨r, hr⟩
    obtain ⟨a, rfl, rfl⟩ := dropBytes?_eq_some_iff.mp hr
    exact ⟨a, r, rfl, rfl⟩
  · rintro ⟨a, r, rfl, rfl⟩
    exact ⟨r, dropBytes?_append a r⟩

/-- The first boundary is met if there are rounds enough to get there. -/
theorem cutFrom?_eq_some {t : Text} {rounds n m : Nat} (hm : t.IsBoundary m) (hle : n ≤ m)
    (hleast : ∀ k, t.IsBoundary k → n ≤ k → m ≤ k) (hrounds : m < n + rounds) :
    t.cutFrom? rounds n = some m := by
  induction rounds generalizing n with
  | zero => omega
  | succ rounds ih =>
    rw [cutFrom?]
    by_cases hn : t.IsBoundary n
    · rw [if_pos (isCut_iff.mpr hn), Nat.le_antisymm hle (hleast n hn (Nat.le_refl n))]
    · have hne : n ≠ m := fun heq => hn (heq ▸ hm)
      rw [if_neg (mt isCut_iff.mp hn)]
      exact ih (by omega) (fun k hk hnk => hleast k hk (by omega)) (by omega)

end Text

namespace Cursor

def OnBoundary (c : Cursor) : Prop := c.text.IsBoundary c.offset

theorem onBoundary_ofOffset (t : Text) (n : Nat) : (ofOffset t n).OnBoundary :=
  t.isBoundary_ceil n

/-- A place that parsing from `c` may lead to: a boundary of the same text, between the
cursor and the end. -/
structure Reaches (c : Cursor) (l : Location) : Prop where
  text_eq : l.text = c.text
  isBoundary : c.text.IsBoundary l.offset
  le : c.offset ≤ l.offset
  le_size : l.offset ≤ c.text.size

variable {c d : Cursor} {l : Location}

theorem OnBoundary.reaches (h : c.OnBoundary) : c.Reaches c.location :=
  ⟨rfl, h, Nat.le_refl _, h.le_size⟩

theorem Reaches.onBoundary (h : c.Reaches d.location) : d.OnBoundary := by
  have htext : d.text = c.text := h.text_eq
  rw [OnBoundary, htext]
  exact h.isBoundary

theorem Reaches.trans (h : c.Reaches d.location) (h' : d.Reaches l) : c.Reaches l := by
  have htext : d.text = c.text := h.text_eq
  have hle : c.offset ≤ d.offset := h.le
  have hle' := h'.le
  refine ⟨h'.text_eq.trans htext, ?_, by omega, ?_⟩
  · rw [← htext]
    exact h'.isBoundary
  · rw [← htext]
    exact h'.le_size

theorem Reaches.remaining_le (h : c.Reaches d.location) : d.remaining ≤ c.remaining := by
  have htext : d.text = c.text := h.text_eq
  have hle : c.offset ≤ d.offset := h.le
  rw [remaining, remaining, htext]
  omega

/-- A cursor that has moved has less in front of it. -/
theorem Reaches.remaining_lt (h : c.Reaches d.location) (hne : c.offset < d.offset) :
    d.remaining < c.remaining := by
  have htext : d.text = c.text := h.text_eq
  have hsize : d.offset ≤ c.text.size := h.le_size
  rw [remaining, remaining, htext]
  omega

theorem rest?_eq_some_iff {r : Text} :
    c.rest? = some r ↔ ∃ a, c.text = a ++ r ∧ c.offset = a.size :=
  Text.dropBytes?_eq_some_iff

theorem surroundings?_map_snd (c : Cursor) : c.surroundings?.map Prod.snd = c.rest? :=
  Text.splitAt?_map_snd none c.text c.offset

theorem surroundings?_of_text_eq {a b : Text} (htext : c.text = a ++ b)
    (hoff : c.offset = a.size) : c.surroundings? = some (a.getLast?, b) := by
  rw [surroundings?, htext, hoff, Text.splitAt?_append, Option.or_none]

theorem OnBoundary.exists_rest? (h : c.OnBoundary) : ∃ r, c.rest? = some r :=
  Text.IsBoundary.exists_dropBytes? h

theorem rest?_eq_none_iff : c.rest? = none ↔ ¬ c.OnBoundary := by
  constructor
  · intro h hc
    obtain ⟨r, hr⟩ := hc.exists_rest?
    cases h.symm.trans hr
  · intro hc
    cases hr : c.rest? with
    | none => rfl
    | some r =>
      obtain ⟨a, htext, hoff⟩ := rest?_eq_some_iff.mp hr
      exact absurd ⟨a, r, htext, hoff⟩ hc

/-- Moving past text that stands at the cursor leads to a boundary, and the end of the
text does not stop it. -/
theorem advance_of_rest? {s r : Text} (h : c.rest? = some (s ++ r)) :
    c.Reaches (c.advance s.size).location ∧ (c.advance s.size).offset = c.offset + s.size ∧
      (c.advance s.size).rest? = some r := by
  obtain ⟨a, htext, hoff⟩ := rest?_eq_some_iff.mp h
  have hsize : c.text.size = a.size + (s.size + r.size) := by
    rw [htext, Text.size_append, Text.size_append]
  have hadv : (c.advance s.size).offset = c.offset + s.size := by
    simp only [advance]
    omega
  have hparts : c.text = (a ++ s) ++ r := by rw [htext, List.append_assoc]
  have hoff' : c.offset + s.size = (a ++ s).size := by rw [hoff, Text.size_append]
  refine ⟨⟨rfl, ?_, ?_, ?_⟩, hadv, ?_⟩
  · exact ⟨a ++ s, r, hparts, hadv.trans hoff'⟩
  · show c.offset ≤ (c.advance s.size).offset
    omega
  · show (c.advance s.size).offset ≤ c.text.size
    omega
  · exact rest?_eq_some_iff.mpr ⟨a ++ s, hparts, hadv.trans hoff'⟩

theorem peek?_of_rest? {r : Text} (h : c.rest? = some r) : c.peek? = some r.head? := by
  rw [peek?, h, Option.map_some]

theorem next?_of_rest?_nil (h : c.rest? = some []) : c.next? = some c := by
  rw [next?, peek?_of_rest? h]
  rfl

theorem next?_of_rest?_cons {ch : Char} {r : Text} (h : c.rest? = some (ch :: r)) :
    c.next? = some (c.advance (Text.size [ch])) := by
  simp only [next?, peek?, h, Option.map_some, List.head?_cons, Text.size, Nat.add_zero]

theorem rest?_eq_some_nil_iff : c.rest? = some [] ↔ c.atEnd = true := by
  rw [rest?_eq_some_iff, atEnd, beq_iff_eq]
  constructor
  · intro h
    obtain ⟨a, htext, hoff⟩ := h
    rw [htext, List.append_nil, hoff]
  · intro hend
    exact ⟨c.text, (List.append_nil _).symm, hend⟩

/-- Away from the end the next place is a boundary further on. -/
theorem OnBoundary.next? (h : c.OnBoundary) (hend : c.atEnd = false) :
    ∃ d, c.next? = some d ∧ c.Reaches d.location ∧ c.offset < d.offset := by
  obtain ⟨r, hr⟩ := h.exists_rest?
  cases r with
  | nil =>
    rw [rest?_eq_some_nil_iff.mp hr] at hend
    cases hend
  | cons ch r =>
    obtain ⟨hreach, hoff, -⟩ := advance_of_rest? (s := [ch]) hr
    have hpos := Text.size_pos (List.cons_ne_nil ch [])
    exact ⟨_, next?_of_rest?_cons hr, hreach, by omega⟩

theorem Reaches.exists_sliceTo? (hc : c.OnBoundary) (h : c.Reaches d.location) :
    ∃ t, c.sliceTo? d = some t := by
  obtain ⟨a, b, r, htext, hi, hj⟩ := hc.exists_parts h.isBoundary h.le
  have hle : c.offset ≤ d.offset := h.le
  have hj' : d.offset = a.size + b.size := hj
  refine ⟨b, ?_⟩
  rw [sliceTo?, htext, Nat.max_eq_left hle, hi, hj', Text.slice?_append]

/-! ## What lies between two cursors -/

variable {e : Cursor} {ch : Char} {r s t u : Text}

theorem advance_advance (c : Cursor) (m n : Nat) :
    (c.advance m).advance n = c.advance (m + n) := by
  show Cursor.mk c.text _ = Cursor.mk c.text _
  congr 1
  show min (min (c.offset + m) c.text.size + n) c.text.size = min (c.offset + (m + n)) c.text.size
  omega

theorem onBoundary_of_rest? (h : c.rest? = some r) : c.OnBoundary := by
  obtain ⟨a, htext, hoff⟩ := rest?_eq_some_iff.mp h
  exact ⟨a, r, htext, hoff⟩

theorem advance_zero_of_rest? (h : c.rest? = some r) : c.advance 0 = c := by
  have hle := (onBoundary_of_rest? h).le_size
  show Cursor.mk c.text (min (c.offset + 0) c.text.size) = c
  rw [Nat.add_zero, Nat.min_eq_left hle]

theorem rest?_advance (h : c.rest? = some (s ++ r)) : (c.advance s.size).rest? = some r :=
  (advance_of_rest? h).2.2

/-- The end of the text does not stop a cursor on its way over what stands in front of it. -/
theorem advance_eq_of_rest? (h : c.rest? = some (s ++ r)) :
    c.advance s.size = ⟨c.text, c.offset + s.size⟩ :=
  congrArg (Cursor.mk c.text) (advance_of_rest? h).2.1

theorem remaining_of_rest? (h : c.rest? = some r) : c.remaining = r.size := by
  obtain ⟨a, htext, hoff⟩ := rest?_eq_some_iff.mp h
  rw [remaining, htext, hoff, Text.size_append, Nat.add_sub_cancel_left]

theorem sliceTo?_advance (h : c.rest? = some (s ++ r)) :
    c.sliceTo? (c.advance s.size) = some s := by
  obtain ⟨a, htext, hoff⟩ := rest?_eq_some_iff.mp h
  have hadv := (advance_of_rest? h).2.1
  rw [sliceTo?, hadv, Nat.max_eq_left (Nat.le_add_right _ _), htext, hoff, Text.slice?_append]

/-- What lies between a cursor and one that it reaches. -/
theorem Reaches.exists_between (hc : c.OnBoundary) (h : c.Reaches d.location) :
    ∃ t r, c.rest? = some (t ++ r) ∧ d.rest? = some r ∧ d.offset = c.offset + t.size := by
  have htext : d.text = c.text := h.text_eq
  obtain ⟨a, t, r, hparts, hi, hj⟩ := hc.exists_parts h.isBoundary h.le
  have hoff : d.offset = a.size + t.size := hj
  refine ⟨t, r, rest?_eq_some_iff.mpr ⟨a, hparts, hi⟩,
    rest?_eq_some_iff.mpr ⟨a ++ t, ?_, ?_⟩, ?_⟩
  · rw [htext, hparts, List.append_assoc]
  · rw [hoff, Text.size_append]
  · rw [hoff, hi]

/-- A cursor that is reached is the same one or further on. -/
theorem Reaches.eq_or_lt (h : c.Reaches d.location) : d = c ∨ c.offset < d.offset := by
  have htext : d.text = c.text := h.text_eq
  have hle : c.offset ≤ d.offset := h.le
  obtain hlt | heq := Nat.lt_or_eq_of_le hle
  · exact .inr hlt
  · left
    show Cursor.mk d.text d.offset = Cursor.mk c.text c.offset
    rw [htext, heq]

theorem Reaches.exists_advance (hc : c.OnBoundary) (h : c.Reaches d.location) :
    ∃ t r, c.rest? = some (t ++ r) ∧ d = c.advance t.size := by
  obtain ⟨t, r, hrest, -, hoff⟩ := h.exists_between hc
  have htext : d.text = c.text := h.text_eq
  refine ⟨t, r, hrest, ?_⟩
  rw [advance_eq_of_rest? hrest]
  show Cursor.mk d.text d.offset = Cursor.mk c.text (c.offset + t.size)
  rw [htext, hoff]

/-- There is no place between two characters that stand one behind the other. -/
theorem Reaches.eq_or_next (hrest : c.rest? = some (ch :: r)) (h : c.Reaches d.location) :
    d = c ∨ (c.advance (Text.size [ch])).Reaches d.location := by
  obtain rfl | hlt := h.eq_or_lt
  · exact .inl rfl
  · obtain ⟨t, r', hrest', -, hoff⟩ := h.exists_between (onBoundary_of_rest? hrest)
    have hnext := (advance_of_rest? (s := [ch]) hrest).2.1
    have hcons : t ++ r' = ch :: r := Option.some.inj (hrest'.symm.trans hrest)
    refine .inr ⟨h.text_eq, h.isBoundary, ?_, h.le_size⟩
    show (c.advance (Text.size [ch])).offset ≤ d.offset
    cases t with
    | nil =>
      rw [hoff] at hlt
      exact absurd hlt (Nat.lt_irrefl _)
    | cons ch' t =>
      obtain ⟨rfl, -⟩ := List.cons.inj hcons
      rw [hnext, hoff]
      simp only [Text.size]
      omega

theorem sliceTo?_self (hc : c.OnBoundary) : c.sliceTo? c = some [] := by
  obtain ⟨r, hrest⟩ := hc.exists_rest?
  have hslice := sliceTo?_advance (s := []) hrest
  have hstay : c.advance (Text.size []) = c := advance_zero_of_rest? hrest
  rwa [hstay] at hslice

/-- What is in front of a place and what is behind it make up the whole. -/
theorem Reaches.sliceTo?_trans (hc : c.OnBoundary) (h : c.Reaches d.location)
    (h' : d.Reaches e.location) (ht : c.sliceTo? d = some t) (hu : d.sliceTo? e = some u) :
    c.sliceTo? e = some (t ++ u) := by
  obtain ⟨a, r, hrest, rfl⟩ := h.exists_advance hc
  obtain ⟨b, r', hrest', rfl⟩ := h'.exists_advance h.onBoundary
  rw [rest?_advance hrest] at hrest'
  obtain rfl : r = b ++ r' := Option.some.inj hrest'
  rw [sliceTo?_advance hrest] at ht
  rw [sliceTo?_advance (rest?_advance hrest)] at hu
  obtain rfl := Option.some.inj ht
  obtain rfl := Option.some.inj hu
  rw [advance_advance, ← Text.size_append]
  rw [← List.append_assoc] at hrest
  exact sliceTo?_advance hrest

end Cursor
end TextGrammar
