/-
Printed arrays are read back.

A value is printed as a list of tokens, and white space may stand in front of every token and
behind the last one.  Wherever such a text stands, the grammar takes all of it for the value,
provided that nothing, a comma or a closing bracket follows.
-/
import TextGrammar.Arrays
import TextGrammar.Proofs.Pattern.Threads
import TextGrammar.Proofs.Taking
import TextGrammar.Proofs.Trail

namespace TextGrammar
namespace Arrays

/-! ## Printing -/

namespace Datum

mutual
/-- The tokens of a value, in order. -/
def tokens : Datum → List Text
  | null => ["null".toList]
  | bool true => ["true".toList]
  | bool false => ["false".toList]
  | number n => [(toString n).toList]
  | text t => ['"' :: (t ++ ['"'])]
  | array items => ['['] :: (itemTokens items ++ [[']']])

/-- The tokens of the items of an array, with commas between them. -/
def itemTokens : List Datum → List Text
  | [] => []
  | v :: vs => tokens v ++ moreTokens vs

/-- The tokens of further items, with a comma in front of each. -/
def moreTokens : List Datum → List Text
  | [] => []
  | v :: vs => [','] :: (tokens v ++ moreTokens vs)
end

/-- Values that have a printed form: integers have at most 63 bits and a sign, and texts have
no quotation mark. -/
inductive Printable : Datum → Prop where
  | null : Printable null
  | bool (b : Bool) : Printable (bool b)
  | number {n : Int} : -Value.greatest ≤ n → n ≤ Value.greatest → Printable (number n)
  | text {t : Text} : '"' ∉ t → Printable (text t)
  | array {items : List Datum} : (∀ v ∈ items, Printable v) → Printable (array items)

end Datum

/-- The texts that consist of these tokens, with any white space before and after each. -/
inductive Spaced : List Text → Text → Prop where
  | nil {w : Text} : w.Within .blank → Spaced [] w
  | cons {w token t : Text} {tokens : List Text} : w.Within .blank → Spaced tokens t →
    Spaced (token :: tokens) (w ++ (token ++ t))

open Datum Recogniser

/-- At any token such a text has two parts. -/
theorem Spaced.split {before after : List Text} {token t : Text}
    (h : Spaced (before ++ token :: after) t) :
    ∃ s u, t = s ++ (token ++ u) ∧ Spaced before s ∧ Spaced after u := by
  induction before generalizing t with
  | nil =>
    cases h with
    | cons hw hu => exact ⟨_, _, rfl, .nil hw, hu⟩
  | cons first before ih =>
    cases h with
    | @cons w _ t _ hw ht =>
      obtain ⟨s, u, rfl, hs, hu⟩ := ih ht
      refine ⟨w ++ (first ++ s), u, ?_, .cons hw hs, hu⟩
      rw [List.append_assoc, List.append_assoc]

/-! ## First characters -/

/-- What may follow a value in a text: nothing, a comma or a closing bracket. -/
def Follows (r : Text) : Prop := ∀ c, r.head? = some c → c = ',' ∨ c = ']'

theorem Follows.outside {r : Text} (h : Follows r) {s : CharSet} (hcomma : s.contains ',' = false)
    (hbracket : s.contains ']' = false) : r.Outside s := by
  intro c hc
  rcases h c hc with rfl | rfl
  · exact hcomma
  · exact hbracket

theorem Follows.outside_blank {r : Text} (h : Follows r) : r.Outside .blank := h.outside rfl rfl

theorem follows_nil : Follows [] := by
  intro c h
  cases h

theorem follows_cons {c : Char} (h : c = ',' ∨ c = ']') (r : Text) : Follows (c :: r) := by
  intro d hd
  obtain rfl : c = d := Option.some.inj hd
  exact h

theorem not_blank_of_isDigit {c : Char} (h : c.isDigit = true) :
    CharSet.blank.contains c = false := by
  obtain ⟨hlo, hhi⟩ : 48 ≤ c.toNat ∧ c.toNat ≤ 57 := Char.isDigit_iff_toNat.mp h
  have hbounds : CharSet.blank.boundaries = [9, 14, 32, 33, 133, 134, 160, 161, 5760, 5761, 8192,
      8203, 8232, 8234, 8239, 8240, 8287, 8288, 12288, 12289] := rfl
  rw [CharSet.contains, hbounds]
  simp only [CharSet.inside]
  rw [if_neg (by omega), if_neg (by omega), if_neg (by omega), if_neg (by omega),
    if_pos (by omega)]
  rfl

/-! ## Numbers -/

/-- The decimal form of an integer: digits, behind a sign if it is negative. -/
theorem toList_toString (n : Int) :
    (toString n).toList = if n < 0 then '-' :: Nat.toDigits 10 n.natAbs
      else Nat.toDigits 10 n.natAbs := by
  cases n with
  | ofNat n =>
    have hle : ¬ Int.ofNat n < 0 := Int.not_lt.mpr (Int.natCast_nonneg n)
    rw [if_neg hle]
    exact Nat.toList_repr
  | negSucc n =>
    rw [if_pos (Int.negSucc_lt_zero n)]
    show ("-" ++ Nat.repr (n + 1)).toList = _
    rw [String.toList_append, Nat.toList_repr]
    rfl

theorem isDigit_of_mem {n : Nat} {c : Char} (h : c ∈ Nat.toDigits 10 n) : c.isDigit = true :=
  Nat.isDigit_of_mem_toDigits (by decide) (Nat.le_refl 10) h

theorem exists_toDigits (n : Nat) : ∃ c t, Nat.toDigits 10 n = c :: t ∧ c.isDigit = true := by
  obtain ⟨c, t, heq⟩ := List.exists_cons_of_ne_nil (Nat.toDigits_ne_nil (n := n) (b := 10))
  exact ⟨c, t, heq, isDigit_of_mem (heq ▸ List.mem_cons_self)⟩

theorem integer?_toDigits {n : Nat} (h : (n : Int) ≤ Value.greatest) :
    Value.integer? (Nat.toDigits 10 n) = some (n : Int) := by
  have hnatural : Value.natural? (Nat.toDigits 10 n) = some n := by
    have hne : (Nat.toDigits 10 n).isEmpty = false :=
      List.isEmpty_eq_false_iff.mpr Nat.toDigits_ne_nil
    have hall : (Nat.toDigits 10 n).all Char.isDigit = true :=
      List.all_eq_true.mpr fun c hc => isDigit_of_mem hc
    rw [Value.natural?, hne, hall]
    exact congrArg some Nat.ofDigitChars_ten_toDigits
  have hbounds : Value.least ≤ (n : Int) ∧ (n : Int) ≤ Value.greatest := by
    refine ⟨?_, h⟩
    rw [Value.least]
    omega
  -- The numeral has no sign, as its first character is a digit.
  have hsign (c : Char) (hc : c.isDigit = false) (t : Text) : Nat.toDigits 10 n ≠ c :: t := by
    intro heq
    have hdigit : c.isDigit = true := isDigit_of_mem (heq ▸ List.mem_cons_self)
    rw [hc] at hdigit
    cases hdigit
  rw [Value.integer?, hnatural]
  · exact Option.filter_eq_some_iff.mpr ⟨rfl, decide_eq_true hbounds⟩
  · exact hsign '-' rfl
  · exact hsign '+' rfl

/-- What the patterns of the language have to match: runs of digits, white space, and the word
that the expression of words prefers. -/
structure Suits (E : Engine) (word : Pattern) : Prop where
  digits : (E.leaf .digits).MatchesLeading Pattern.digitSet Pattern.digitSet
  whitespace : (E.leaf .whitespace).MatchesAll .blank
  words : ∀ before t, word.matched? before t = anyWord.preferred? before t

variable {E : Engine} {word : Pattern} {c : Char} {r : Text}
  {call : (r : (signature E).Rule) → Recogniser ((signature E).Result r)}

theorem suits (hword : E.pattern? "true|false|null" = some word)
    (hE : ∀ source ∈ ["[0-9]+", "\\s*", "true|false|null"], E.LeftmostFirst source) :
    Suits E word := by
  simp only [List.forall_mem_cons] at hE
  obtain ⟨hdigits, hwhite, hwords, -⟩ := hE
  exact ⟨Engine.matchesLeading_of_run (l := .digits) rfl hdigits,
    Engine.matchesAll_whitespace hwhite, hwords.matched?_eq hword ofSource?_anyWord⟩

theorem Suits.takes_digits (hE : Suits E word) (n : Nat) (hr : r.Outside Pattern.digitSet) :
    (Recogniser.pattern (E.leaf .digits)).Takes (Nat.toDigits 10 n) (Nat.toDigits 10 n) r := by
  have hwithin : Text.Within Pattern.digitSet (Nat.toDigits 10 n) :=
    fun c hc => (Pattern.contains_digitSet c).trans (isDigit_of_mem hc)
  exact takes_run hE.digits hwithin Nat.toDigits_ne_nil hr

theorem Suits.refuses_digits (hE : Suits E word) (h : Pattern.digitSet.contains c = false)
    (r : Text) : (Recogniser.pattern (E.leaf .digits)).Refuses (c :: r) :=
  refuses_run hE.digits (Text.outside_cons h r)

/-- The digits of a printed integer, when it is known whether a sign is in front of them. -/
theorem takes_natural (hE : Suits E word) (negative : Bool) {n : Nat}
    (h : (n : Int) ≤ Value.greatest) (hr : r.Outside Pattern.digitSet) :
    (Parser.denote call (.map Parser.digits (Datum.ofDigits negative))).Takes (Nat.toDigits 10 n)
      (.number (if negative then -(n : Int) else n)) r := by
  have hdigits : (Parser.denote call Parser.digits).Takes (Nat.toDigits 10 n)
      (Nat.toDigits 10 n) r := hE.takes_digits n hr
  have htakes := Parser.takes_map hdigits (Datum.ofDigits negative)
  rw [Datum.ofDigits, integer?_toDigits h] at htakes
  exact htakes

theorem takes_number (hE : Suits E word) {n : Int} (hlo : -Value.greatest ≤ n)
    (hhi : n ≤ Value.greatest) (hr : r.Outside Pattern.digitSet) :
    (Parser.denote call number).Takes (toString n).toList (.number n) r := by
  have hle : (n.natAbs : Int) ≤ Value.greatest := by omega
  rw [toList_toString]
  by_cases hneg : n < 0
  · have hn : -(n.natAbs : Int) = n := by omega
    have hsign : (Parser.denote call (.optional (.literal ['-']))).Takes ['-'] (some ['-'])
        (Nat.toDigits 10 n.natAbs ++ r) := takes_optional_some (takes_literal ['-'] _)
    rw [if_pos hneg]
    refine Parser.takes_chain hsign ?_
    have htakes : (Parser.denote call _).Takes _ _ r := takes_natural hE true hle hr
    rw [if_pos rfl, hn] at htakes
    exact htakes
  · have hn : (n.natAbs : Int) = n := by omega
    have hsign : (Parser.denote call (.optional (.literal ['-']))).Takes [] none
        (Nat.toDigits 10 n.natAbs ++ r) := by
      obtain ⟨c, t, heq, hc⟩ := exists_toDigits n.natAbs
      rw [heq]
      refine takes_optional_none (refuses_literal_of_ne ?_ (t ++ r))
      intro hsign
      rw [← hsign] at hc
      cases hc
    rw [if_neg hneg]
    refine Parser.takes_chain hsign ?_
    have htakes : (Parser.denote call _).Takes _ _ r := takes_natural hE false hle hr
    rw [if_neg Bool.false_ne_true, hn] at htakes
    exact htakes

theorem refuses_number (hE : Suits E word) (hsign : '-' ≠ c)
    (hdigit : Pattern.digitSet.contains c = false) (r : Text) :
    (Parser.denote call number).Refuses (c :: r) := by
  have hnone : (Parser.denote call (.optional (.literal ['-']))).Takes [] none (c :: r) :=
    takes_optional_none (refuses_literal_of_ne hsign r)
  have hdigits : (Parser.denote call Parser.digits).Refuses (c :: r) :=
    hE.refuses_digits hdigit r
  exact Parser.refuses_chain hnone (Parser.refuses_map hdigits _)

/-! ## Texts -/

theorem takes_string {t : Text} (ht : '"' ∉ t) (r : Text) :
    (Parser.denote call string).Takes ('"' :: (t ++ ['"'])) (.text t) r := by
  -- No suffix of the text begins with a quotation mark.
  have hbefore (a b : Text) (heq : t = a ++ b) (hb : b ≠ []) :
      (literal ['"']).Refuses (b ++ (['"'] ++ r)) := by
    cases b with
    | nil => exact absurd rfl hb
    | cons c b =>
      refine refuses_literal_of_ne ?_ _
      intro hc
      refine ht ?_
      rw [heq, hc]
      exact List.mem_append_right a List.mem_cons_self
  have hcontent : (Parser.denote call (.takeUntil (.literal ['"']))).Takes t t (['"'] ++ r) :=
    takes_takeUntil (takes_literal ['"'] r) hbefore
  have hquote (r : Text) : (Parser.denote call (.literal ['"'])).Takes ['"'] ['"'] r :=
    takes_literal ['"'] r
  exact Parser.takes_map (Parser.takes_between (hquote _) hcontent (hquote r)) Datum.text

theorem refuses_string (h : '"' ≠ c) (r : Text) :
    (Parser.denote call string).Refuses (c :: r) := by
  have hquote : (Parser.denote call (.literal ['"'])).Refuses (c :: r) :=
    refuses_literal_of_ne h r
  exact Parser.refuses_map (Parser.refuses_between hquote) Datum.text

/-! ## Words -/

inductive IsWord : Text → Prop where
  | true : IsWord "true".toList
  | false : IsWord "false".toList
  | null : IsWord "null".toList

/-- The expression prefers each of the words where it stands, as none of them begins another. -/
theorem preferred?_anyWord {w : Text} (hw : IsWord w) (before : Option Char) (r : Text) :
    anyWord.preferred? before (w ++ r) = some w := by
  have hfirst {c d : Char} {t u : Text} (h : c ≠ d) : ¬ (c :: t) <+: (d :: u) ++ r :=
    fun hprefix => h (List.cons_prefix_cons.mp hprefix).1
  cases hw with
  | true => exact Expression.preferred?_alt_literal _ _ before r
  | false =>
    exact (Expression.preferred?_alt_literal_of_not_prefix _ before (hfirst (by decide))).trans
      (Expression.preferred?_alt_literal _ _ before r)
  | null =>
    exact (Expression.preferred?_alt_literal_of_not_prefix _ before (hfirst (by decide))).trans
      ((Expression.preferred?_alt_literal_of_not_prefix _ before (hfirst (by decide))).trans
        (Expression.preferred?_literal _ before r))

theorem preferred?_anyWord_eq_none {t : Text} (h : ∀ w, IsWord w → ¬ w <+: t)
    (before : Option Char) : anyWord.preferred? before t = none :=
  (Expression.preferred?_alt_literal_of_not_prefix _ before (h _ .true)).trans
    ((Expression.preferred?_alt_literal_of_not_prefix _ before (h _ .false)).trans
      (Expression.preferred?_literal_of_not_prefix before (h _ .null)))

theorem not_isPrefix_of_ne {w : Text} (hw : IsWord w) (ht : c ≠ 't') (hf : c ≠ 'f')
    (hn : c ≠ 'n') (r : Text) : ¬ w <+: c :: r := by
  intro hprefix
  cases hw with
  | true => exact ht (List.cons_prefix_cons.mp hprefix).1.symm
  | false => exact hf (List.cons_prefix_cons.mp hprefix).1.symm
  | null => exact hn (List.cons_prefix_cons.mp hprefix).1.symm

/-- The words are told apart by their first characters. -/
theorem IsWord.eq_of_head?_eq {w w' : Text} (hw : IsWord w) (hw' : IsWord w')
    (h : w.head? = w'.head?) : w = w' := by
  revert h
  cases hw <;> cases hw' <;> decide

theorem takes_keyword (hE : Suits E word) {w : Text} (hw : IsWord w) (r : Text) :
    (Parser.denote call (keyword word)).Takes w (Datum.ofWord w) r := by
  have hword : (Parser.denote call (.pattern word)).Takes w w r :=
    takes_pattern fun before => (hE.words before (w ++ r)).trans (preferred?_anyWord hw before r)
  exact Parser.takes_map hword Datum.ofWord

/-- A character with which no word begins. -/
theorem refuses_keyword (hE : Suits E word) (ht : c ≠ 't') (hf : c ≠ 'f') (hn : c ≠ 'n')
    (r : Text) : (Parser.denote call (keyword word)).Refuses (c :: r) := by
  have hword : (Parser.denote call (.pattern word)).Refuses (c :: r) :=
    refuses_pattern fun before => (hE.words before (c :: r)).trans
      (preferred?_anyWord_eq_none (fun w hw => not_isPrefix_of_ne hw ht hf hn r) before)
  exact Parser.refuses_map hword Datum.ofWord

/-! ### By threads -/

open Matching

/-- Behind the first character of a word a single thread is left, and it waits for the rest. -/
theorem matched?_anyWord_of_waits {w : Text} {next : Nat} (hw : IsWord (c :: w))
    (hstep : ∀ sight, step anyWord.program c sight [1, 7, 13] = [next])
    (hwaits : Waits anyWord.program next (w.map .single)) (before : Option Char) (r : Text) :
    (Matcher.threads anyWord).matched? before (c :: r) =
      anyWord.preferred? before (c :: r) := by
  have hinitial (sight : Sight) : initial anyWord.program sight = [1, 7, 13] := rfl
  have hbetter : [1, 7, 13].takeWhile (fun pc => !accepts anyWord.program pc) = [1, 7, 13] := rfl
  simp only [Matcher.threads, matchLength?, hinitial, scan, hbetter, Nat.lt_irrefl, if_false,
    hstep, hwaits.scan_eq, begins_map_single]
  by_cases hr : w <+: r
  · obtain ⟨u, rfl⟩ := hr
    rw [if_pos (List.prefix_append w u), List.length_map, Option.map_some, Nat.zero_add,
      Nat.add_comm, List.take_succ_cons, List.take_left]
    exact (preferred?_anyWord hw before u).symm
  · have hnone (w' : Text) (hw' : IsWord w') : ¬ w' <+: c :: r := by
      intro hprefix
      have heq : w' = c :: w := by
        refine hw'.eq_of_head?_eq hw ?_
        cases hw' <;> exact congrArg some (List.cons_prefix_cons.mp hprefix).1
      rw [heq] at hprefix
      exact hr (List.cons_prefix_cons.mp hprefix).2
    rw [if_neg hr, preferred?_anyWord_eq_none hnone]
    rfl

/-- No thread waits for a character with which no word begins. -/
theorem matched?_anyWord_of_ne (ht : c ≠ 't') (hf : c ≠ 'f') (hn : c ≠ 'n')
    (before : Option Char) (r : Text) :
    (Matcher.threads anyWord).matched? before (c :: r) =
      anyWord.preferred? before (c :: r) := by
  have hinitial (sight : Sight) : initial anyWord.program sight = [1, 7, 13] := rfl
  have hbetter : [1, 7, 13].takeWhile (fun pc => !accepts anyWord.program pc) = [1, 7, 13] := rfl
  have hother {pc : Nat} {d : Char} (hpc : anyWord.program[pc]? = some (.consume (.single d)))
      (hd : c ≠ d) (s : CharSet) (hs : anyWord.program[pc]? = some (.consume s)) :
      s.contains c = false := by
    obtain rfl := Instr.consume.inj (Option.some.inj (hpc.symm.trans hs))
    rw [CharSet.contains_single, decide_eq_false hd]
  have hstep (sight : Sight) : step anyWord.program c sight [1, 7, 13] = [] := by
    refine step_eq_nil ?_ sight
    simp only [List.forall_mem_cons]
    exact ⟨hother rfl ht, hother rfl hf, hother rfl hn, fun _ h => absurd h List.not_mem_nil⟩
  rw [preferred?_anyWord_eq_none fun w hw => not_isPrefix_of_ne hw ht hf hn r]
  simp only [Matcher.threads, matchLength?, hinitial, scan, hbetter, Nat.lt_irrefl, if_false,
    hstep, scan_nil, Option.map_none]

theorem leftmostFirst_threads_anyWord : Engine.threads.LeftmostFirst "true|false|null" := by
  refine Engine.leftmostFirst_threads ofSource?_anyWord fun before t => ?_
  cases t with
  | nil => rfl
  | cons c r =>
    by_cases ht : c = 't'
    · subst ht
      exact matched?_anyWord_of_waits .true (fun _ => rfl)
        (.step rfl rfl (fun _ => rfl) (.step rfl rfl (fun _ => rfl)
          (.step rfl rfl (fun _ => rfl) (.accept rfl)))) before r
    by_cases hf : c = 'f'
    · subst hf
      exact matched?_anyWord_of_waits .false (fun _ => rfl)
        (.step rfl rfl (fun _ => rfl) (.step rfl rfl (fun _ => rfl)
          (.step rfl rfl (fun _ => rfl) (.step rfl rfl (fun _ => rfl) (.accept rfl))))) before r
    by_cases hn : c = 'n'
    · subst hn
      exact matched?_anyWord_of_waits .null (fun _ => rfl)
        (.step rfl rfl (fun _ => rfl) (.step rfl rfl (fun _ => rfl)
          (.step rfl rfl (fun _ => rfl) (.accept rfl)))) before r
    · exact matched?_anyWord_of_ne ht hf hn before r

/-! ## Arrays -/

/-- No value begins with white space. -/
theorem exists_tokens (v : Datum) :
    ∃ c token more, v.tokens = (c :: token) :: more ∧ CharSet.blank.contains c = false := by
  cases v with
  | null => exact ⟨_, _, _, rfl, rfl⟩
  | bool b => cases b <;> exact ⟨_, _, _, rfl, rfl⟩
  | text t => exact ⟨_, _, _, rfl, rfl⟩
  | array items => exact ⟨_, _, _, rfl, rfl⟩
  | number n =>
    obtain ⟨c, t, heq, hc⟩ := exists_toDigits n.natAbs
    rw [tokens, toList_toString, heq]
    by_cases hneg : n < 0
    · rw [if_pos hneg]
      exact ⟨_, _, _, rfl, rfl⟩
    · rw [if_neg hneg]
      exact ⟨_, _, _, rfl, not_blank_of_isDigit hc⟩

/-- A value up to the next token, with the white space in front of it. -/
theorem Spaced.exists_value {v : Datum} {token t : Text} {after : List Text}
    (h : Spaced (v.tokens ++ token :: after) t) :
    ∃ w s u, t = w ++ (s ++ (token ++ u)) ∧ w.Within .blank ∧ (∀ x, (s ++ x).Outside .blank) ∧
      Spaced v.tokens s ∧ Spaced after u := by
  obtain ⟨c, first, more, heq, hc⟩ := exists_tokens v
  rw [heq] at h
  cases h with
  | @cons w _ t _ hw ht =>
    obtain ⟨s, u, rfl, hs, hu⟩ := ht.split
    refine ⟨w, (c :: first) ++ s, u, ?_, hw, fun x => Text.outside_cons hc _, ?_, hu⟩
    · rw [List.append_assoc]
    · rw [heq]
      exact .cons (Text.within_nil _) hs

/-- A bracket or a comma, with the white space behind it. -/
theorem takes_mark (hE : Suits E word) {w : Text} (hc : CharSet.blank.contains c = false)
    (hw : w.Within .blank) (hr : r.Outside .blank) :
    (trim (E.leaf .whitespace) (literal [c])).Takes (c :: w) [c] r :=
  (takes_literal [c] (w ++ r)).trim hE.whitespace (Text.within_nil _) (Text.outside_cons hc _) hw hr

theorem refuses_mark (hE : Suits E word) {d : Char} (h : c ≠ d)
    (hd : CharSet.blank.contains d = false) (r : Text) :
    (trim (E.leaf .whitespace) (literal [c])).Refuses (d :: r) :=
  (refuses_literal_of_ne h r).trim hE.whitespace (Text.within_nil _) (Text.outside_cons hd r)

/-- All printed forms of the value up to this size are taken for it. -/
def TakesPrinted (p : Recogniser Datum) (size : Nat) (v : Datum) : Prop :=
  ∀ s r : Text, Spaced v.tokens s → s.size ≤ size → Follows r → p.Takes s v r

/-- What separates the items of an array. -/
def comma (E : Engine) : Recogniser Text := trim (E.leaf .whitespace) (literal [','])

/-- Behind an item comes a comma or the closing bracket. -/
theorem exists_next (vs : List Datum) :
    ∃ d more, moreTokens vs ++ [[']']] = [d] :: more ∧ (d = ',' ∨ d = ']') := by
  cases vs with
  | nil => exact ⟨']', _, rfl, .inr rfl⟩
  | cons v vs => exact ⟨',', _, rfl, .inl rfl⟩

variable {p : Recogniser Datum} {size : Nat}

/-- An item is taken up to the character that comes next. -/
theorem exists_item {v : Datum} (hv : TakesPrinted p size v) {vs : List Datum} {t : Text}
    (ht : Spaced ((v.tokens ++ moreTokens vs) ++ [[']']]) t) (hsize : t.size ≤ size) :
    ∃ (w s : Text) (d : Char) (more : List Text) (u : Text), t = w ++ (s ++ (d :: u)) ∧
      w.Within .blank ∧ (∀ x, (s ++ x).Outside .blank) ∧ (∀ r, p.Takes s v (d :: r)) ∧
      moreTokens vs ++ [[']']] = [d] :: more ∧ Spaced more u ∧ u.size ≤ size := by
  obtain ⟨d, more, hnext, hd⟩ := exists_next vs
  rw [List.append_assoc, hnext] at ht
  obtain ⟨w, s, u, rfl, hw, hout, hs, hu⟩ := ht.exists_value
  rw [Text.size_append, Text.size_append, Text.size_append] at hsize
  have hitem (r : Text) : p.Takes s v (d :: r) :=
    hv s (d :: r) hs (by omega) (follows_cons hd r)
  exact ⟨w, s, d, more, u, rfl, hw, hout, hitem, hnext, hu, by omega⟩

theorem append_bracket {d : Char} {s t u : Text} (h : d :: t = s ++ (']' :: u)) (r : Text) :
    s ++ (']' :: (u ++ r)) = d :: (t ++ r) := by
  show _ = (d :: t) ++ r
  rw [h, List.append_assoc, List.cons_append]

/-- The items behind the first one, up to the closing bracket.  `d` is the character that
comes next, a comma or this bracket. -/
theorem takes_more (hE : Suits E word) (hforward : (separated p (comma E)).Forward)
    {vs : List Datum} (hvs : ∀ v ∈ vs, TakesPrinted p size v) {d : Char} {more : List Text}
    (hmore : moreTokens vs ++ [[']']] = [d] :: more) {t : Text} (ht : Spaced more t)
    (hsize : t.size ≤ size) (r : Text) :
    ∃ s u : Text, d :: t = s ++ (']' :: u) ∧ u.Within .blank ∧
      (exhaust .listEnded (separated p (comma E))).Takes s vs (']' :: (u ++ r)) := by
  induction vs generalizing d more t with
  | nil =>
    obtain ⟨hd, rfl⟩ := List.cons.inj hmore
    obtain rfl : ']' = d := (List.cons.inj hd).1
    cases ht with
    | nil hw =>
      refine ⟨[], t, rfl, hw, takes_exhaust_nil ?_⟩
      exact (refuses_mark hE (by decide) rfl (t ++ r)).andThen fun _ => p
  | cons v vs ih =>
    obtain ⟨hd, rfl⟩ := List.cons.inj hmore
    obtain rfl : ',' = d := (List.cons.inj hd).1
    obtain ⟨w, s, d, more, u, rfl, hw, hout, hitem, hnext, hu, hsize'⟩ :=
      exists_item (hvs v List.mem_cons_self) ht hsize
    obtain ⟨s', u', heq, hu', hrest⟩ :=
      ih (fun v' hv' => hvs v' (List.mem_cons_of_mem v hv')) hnext hu hsize'
    have hbehind := append_bracket heq r
    have hcomma : (comma E).Takes (',' :: w) [','] (s ++ (s' ++ (']' :: (u' ++ r)))) :=
      takes_mark hE rfl hw (hout _)
    have hpair : (separated p (comma E)).Takes ((',' :: w) ++ s) v (s' ++ (']' :: (u' ++ r))) :=
      hcomma.andThen (f := fun _ => p) (hbehind ▸ hitem (u ++ r))
    refine ⟨((',' :: w) ++ s) ++ s', u', ?_, hu',
      takes_exhaust_cons hforward hpair (List.cons_ne_nil _ _) hrest⟩
    rw [heq]
    simp only [List.cons_append, List.append_assoc]

/-- The items of an array up to the closing bracket, with the white space in front of them. -/
theorem takes_items (hE : Suits E word) (hforward : (separated p (comma E)).Forward)
    (hrefuses : ∀ r, p.Refuses (']' :: r)) {items : List Datum}
    (hitems : ∀ v ∈ items, TakesPrinted p size v) {t : Text}
    (ht : Spaced (itemTokens items ++ [[']']]) t) (hsize : t.size ≤ size) (r : Text) :
    ∃ w s u : Text, t = w ++ (s ++ (']' :: u)) ∧ w.Within .blank ∧ u.Within .blank ∧
      (∀ x, (s ++ (']' :: x)).Outside .blank) ∧
      (sepBy p (comma E)).Takes s items (']' :: (u ++ r)) := by
  cases items with
  | nil =>
    cases ht with
    | @cons w _ u _ hw hu =>
      cases hu with
      | nil hu =>
        exact ⟨w, [], u, rfl, hw, hu, Text.outside_cons rfl,
          takes_sepBy_nil (hrefuses _) (comma E)⟩
  | cons v vs =>
    obtain ⟨w, s, d, more, u, rfl, hw, hout, hitem, hnext, hu, hsize'⟩ :=
      exists_item (hitems v List.mem_cons_self) ht hsize
    obtain ⟨s', u', heq, hu', hrest⟩ :=
      takes_more hE hforward (fun v' hv' => hitems v' (List.mem_cons_of_mem v hv')) hnext hu
        hsize' r
    have hbehind := append_bracket heq r
    refine ⟨w, s ++ s', u', ?_, hw, hu', ?_,
      takes_sepBy_cons (hbehind ▸ hitem (u ++ r)) hrest⟩
    · rw [heq, List.append_assoc]
    · intro x
      rw [List.append_assoc]
      exact hout _

theorem takes_array (hE : Suits E word) (hforward : (separated (call ()) (comma E)).Forward)
    (hrefuses : ∀ r, (call ()).Refuses (']' :: r)) {items : List Datum}
    (hitems : ∀ v ∈ items, TakesPrinted (call ()) size v) {t : Text}
    (ht : Spaced (itemTokens items ++ [[']']]) t) (hsize : t.size ≤ size)
    (hr : r.Outside .blank) :
    (Parser.denote call array).Takes ('[' :: t) (.array items) r := by
  obtain ⟨w, s, u, rfl, hw, hu, hout, hlist⟩ :=
    takes_items hE hforward hrefuses hitems ht hsize r
  have hopen : (Parser.denote call (.trim (.literal ['[']))).Takes ('[' :: w) ['[']
      ((s ++ (']' :: u)) ++ r) := by
    refine takes_mark hE rfl hw ?_
    rw [List.append_assoc, List.cons_append]
    exact hout _
  have hlist : (Parser.denote call (.sepBy (.rule ()) (.trim (.literal [','])))).Takes s items
      ((']' :: u) ++ r) := hlist
  have hclose : (Parser.denote call (.trim (.literal [']']))).Takes (']' :: u) [']'] r :=
    takes_mark hE rfl hu hr
  exact Parser.takes_map (Parser.takes_between hopen hlist (Parser.takes_label hclose _))
    Datum.array

theorem refuses_array (hE : Suits E word) (h : '[' ≠ c) (hc : CharSet.blank.contains c = false)
    (r : Text) :
    (Parser.denote call array).Refuses (c :: r) := by
  have hopen : (Parser.denote call (.trim (.literal ['[']))).Refuses (c :: r) :=
    refuses_mark hE h hc r
  exact Parser.refuses_map (Parser.refuses_between hopen) Datum.array

/-! ## Values -/

/-- What a value may be, in the order in which it is tried. -/
def alternatives (word : Pattern)
    (call : (r : (signature E).Rule) → Recogniser ((signature E).Result r)) :
    List (Recogniser Datum) :=
  [number, string, keyword word, array].map (Parser.denote call)

theorem denote_value : Parser.denote call (value word) =
    trim (E.leaf .whitespace) (choice (alternatives word call)) :=
  congrArg (trim (E.leaf .whitespace)) (Parser.denote_choose _)

/-- No value begins with a closing bracket, which is how an array without items is told. -/
theorem refuses_value (hE : Suits E word) (r : Text) :
    (Parser.denote call (value word)).Refuses (']' :: r) := by
  rw [denote_value]
  refine Refuses.trim hE.whitespace (w := []) (refuses_choice ?_) (Text.within_nil _)
    (Text.outside_cons rfl r)
  simp only [alternatives, List.map_cons, List.forall_mem_cons]
  exact ⟨refuses_number hE (by decide) rfl r, refuses_string (by decide) r,
    refuses_keyword hE (by decide) (by decide) (by decide) r, refuses_array hE (by decide) rfl r,
    fun _ h => absurd h List.not_mem_nil⟩

/-- A value of one token, in front of white space. -/
theorem takes_token (hE : Suits E word) {v : Datum} {token s : Text} (hs : Spaced [token] s)
    (hr : Follows r) (hout : ∀ x, (token ++ x).Outside .blank)
    (htakes : ∀ w : Text, w.Within .blank →
      (choice (alternatives word call)).Takes token v (w ++ r)) :
    (Parser.denote call (value word)).Takes s v r := by
  cases hs with
  | @cons w _ w' _ hw hw' =>
    cases hw' with
    | nil hw' =>
      rw [denote_value]
      refine (htakes w' hw').trim hE.whitespace hw ?_ hw' hr.outside_blank
      rw [List.append_assoc]
      exact hout _

theorem takes_word (hE : Suits E word) {t s : Text}
    (ht : IsWord (c :: t)) (hs : Spaced [c :: t] s)
    (hr : Follows r) (hsign : '-' ≠ c) (hquote : '"' ≠ c)
    (hdigit : Pattern.digitSet.contains c = false) (hblank : CharSet.blank.contains c = false) :
    (Parser.denote call (value word)).Takes s (Datum.ofWord (c :: t)) r := by
  refine takes_token hE hs hr (fun x => Text.outside_cons hblank _) fun w _ => ?_
  exact takes_choice_tail (refuses_number hE hsign hdigit _)
    (takes_choice_tail (refuses_string hquote _) (takes_choice_head (takes_keyword hE ht _) _))

/-- White space is no digit, so a number ends in front of it. -/
theorem outside_digitSet {w : Text} (hw : w.Within .blank) (hr : Follows r) :
    Text.Outside Pattern.digitSet (w ++ r) := by
  cases w with
  | nil => exact hr.outside rfl rfl
  | cons c w =>
    intro d hd
    obtain rfl : c = d := Option.some.inj hd
    rw [Pattern.contains_digitSet]
    by_cases hdigit : c.isDigit = true
    · have hblank := hw c List.mem_cons_self
      rw [not_blank_of_isDigit hdigit] at hblank
      cases hblank
    · rwa [Bool.not_eq_true] at hdigit

/-- If the rule takes the printed forms of values up to some size, a value takes those that are
one byte longer. -/
theorem takesPrinted_value (hE : Suits E word)
    (hforward : (separated (call ()) (comma E)).Forward)
    (hrefuses : ∀ r, (call ()).Refuses (']' :: r))
    (hcall : ∀ v : Datum, v.Printable → TakesPrinted (call ()) size v) {v : Datum}
    (hv : v.Printable) : TakesPrinted (Parser.denote call (value word)) (size + 1) v := by
  intro s r hs hsize hr
  cases hv with
  | null => exact takes_word hE .null hs hr (by decide) (by decide) rfl rfl
  | bool b =>
    cases b with
    | false => exact takes_word hE .false hs hr (by decide) (by decide) rfl rfl
    | true => exact takes_word hE .true hs hr (by decide) (by decide) rfl rfl
  | @number n hlo hhi =>
    obtain ⟨c, token, more, heq, hc⟩ := exists_tokens (.number n)
    obtain ⟨htoken, -⟩ := List.cons.inj heq
    refine takes_token hE hs hr (fun x => ?_) fun w hw => ?_
    · rw [htoken]
      exact Text.outside_cons hc _
    · exact takes_choice_head (takes_number hE hlo hhi (outside_digitSet hw hr)) _
  | @text t ht =>
    refine takes_token hE hs hr (fun x => Text.outside_cons rfl _) fun w _ => ?_
    exact takes_choice_tail (refuses_number hE (by decide) rfl _)
      (takes_choice_head (takes_string ht _) _)
  | @array items hitems =>
    cases hs with
    | @cons w _ t _ hw ht =>
      have hbracket : Text.size ['['] = 1 := rfl
      rw [Text.size_append, Text.size_append, hbracket] at hsize
      have htakes := takes_array hE hforward hrefuses (fun v hv => hcall v (hitems v hv)) ht
        (by omega) hr.outside_blank
      have hchoice : (choice (alternatives word call)).Takes ('[' :: t) (.array items) ([] ++ r) :=
        takes_choice_tail (refuses_number hE (by decide) rfl _)
          (takes_choice_tail (refuses_string (by decide) _)
            (takes_choice_tail (refuses_keyword hE (by decide) (by decide) (by decide) _)
              (takes_choice_head htakes [])))
      have hvalue := hchoice.trim hE.whitespace hw (Text.outside_cons rfl _) (Text.within_nil _)
        hr.outside_blank
      rw [List.append_nil] at hvalue
      rw [denote_value]
      exact hvalue

theorem size_pos_of_spaced {v : Datum} {s : Text} (hs : Spaced v.tokens s) : 0 < s.size := by
  obtain ⟨c, token, more, heq, -⟩ := exists_tokens v
  rw [heq] at hs
  cases hs with
  | cons hw ht =>
    have hpos := Text.size_pos (List.cons_ne_nil c token)
    rw [Text.size_append, Text.size_append]
    omega

/-- Calls of the rule are nested no more deeply than a printed form is long. -/
theorem takesPrinted_parseWithin (hE : Suits E word) (depth : Nat) {v : Datum}
    (hv : v.Printable) :
    TakesPrinted (Parser.parseWithin (grammar (E := E) word) depth (value word)) depth v := by
  induction depth generalizing v with
  | zero =>
    intro s r hs hsize
    have hpos := size_pos_of_spaced hs
    omega
  | succ depth ih =>
    have hforward :
        (separated (Parser.parseWithin (grammar word) depth (value word)) (comma E)).Forward :=
      Parser.forward_parseWithin (grammar word) (depth + 1)
        (.keepRight (.trim (.literal [','])) (.rule (S := signature E) ()))
    have hrefuses (r : Text) :
        (Parser.parseWithin (grammar (E := E) word) depth (value word)).Refuses (']' :: r) := by
      cases depth with
      | zero => exact refuses_value hE r
      | succ depth => exact refuses_value hE r
    show TakesPrinted (Parser.denote
      (fun r => Parser.parseWithin (grammar (E := E) word) depth (grammar word r)) (value word))
      (depth + 1) v
    exact takesPrinted_value hE hforward hrefuses (fun v hv => ih hv) hv

/-- With an engine that matches digits, white space and the words leftmost and first, the document
is read back from every printed form of a value, whatever white space stands between its tokens,
and nothing of the text is left. -/
theorem runAt_document {word : Pattern} (hword : E.pattern? "true|false|null" = some word)
    (hE : ∀ source ∈ ["[0-9]+", "\\s*", "true|false|null"], E.LeftmostFirst source)
    {v : Datum} (hv : v.Printable) {t : Text} (ht : Spaced v.tokens t) {depth : Nat}
    (hdepth : t.size ≤ depth) :
    Parser.runAt (grammar (E := E) word) depth (document word) t 0 =
      .ok (.success v ⟨t, t.size⟩, [.succeeded 0 t.size]) := by
  have hvalue := takesPrinted_parseWithin (suits hword hE) depth hv t [] ht hdepth follows_nil
  have hdocument :
      (Parser.parseWithin (grammar (E := E) word) depth (document word)).Takes (t ++ []) v [] := by
    cases depth with
    | zero => exact Parser.takes_keepLeft hvalue takes_endOfInput
    | succ depth => exact Parser.takes_keepLeft hvalue takes_endOfInput
  have hstart : (Cursor.start t).rest? = some ((t ++ []) ++ []) := by
    rw [List.append_nil, List.append_nil]
    exact Text.dropBytes?_zero t
  have hoffset : Cursor.ofOffset t 0 = Cursor.start t := by
    cases t <;> rfl
  have hend : (Cursor.start t).advance (Text.size t) = ⟨t, t.size⟩ := by
    show Cursor.mk t (min (0 + t.size) t.size) = _
    rw [Nat.zero_add, Nat.min_self]
  have hrun := hdocument _ hstart
  rw [List.append_nil, hend] at hrun
  rw [Parser.runAt, hoffset, hrun]
  rfl

/-- An array with all kinds of values in it. -/
def sample : Datum := .array [.number (-12), .text ['é', ' '], .array [], .bool true, .null]

/-- The sample with white space of one and of three bytes between its tokens. -/
def sampleText : Text := "\t[\u3000-12,\"é \" , [ \u2028],true,null ]\n".toList

/-- It is read back by threads. -/
theorem sample_read : ∃ word, Engine.threads.pattern? "true|false|null" = some word ∧
    (∀ source ∈ ["[0-9]+", "\\s*", "true|false|null"], Engine.threads.LeftmostFirst source) ∧
    sample.Printable ∧ Spaced sample.tokens sampleText ∧
    Parser.runAt (grammar (E := .threads) word) 40 (document word) sampleText 0 =
      .ok (.success sample ⟨sampleText, 36⟩, [.succeeded 0 36]) := by
  have hword : Engine.threads.pattern? "true|false|null" =
      some ⟨"true|false|null", .threads anyWord⟩ :=
    Engine.pattern?_threads ofSource?_anyWord (by decide)
  have hE : ∀ source ∈ ["[0-9]+", "\\s*", "true|false|null"],
      Engine.threads.LeftmostFirst source := by
    simp only [List.forall_mem_cons]
    exact ⟨Engine.leftmostFirst_threads_builtIn .digits,
      Engine.leftmostFirst_threads_builtIn .whitespace, leftmostFirst_threads_anyWord,
      fun _ h => absurd h List.not_mem_nil⟩
  have hprintable : sample.Printable := by
    refine .array ?_
    simp only [List.forall_mem_cons]
    exact ⟨.number (by decide) (by decide), .text (by decide),
      .array fun _ h => absurd h List.not_mem_nil, .bool true, .null,
      fun _ h => absurd h List.not_mem_nil⟩
  have hspaced : Spaced sample.tokens sampleText :=
    .cons (w := ['\t']) (by decide) <| .cons (w := ['\u3000']) (by decide) <|
    .cons (w := []) (by decide) <| .cons (w := []) (by decide) <|
    .cons (w := [' ']) (by decide) <| .cons (w := [' ']) (by decide) <|
    .cons (w := [' ', '\u2028']) (by decide) <| .cons (w := []) (by decide) <|
    .cons (w := []) (by decide) <| .cons (w := []) (by decide) <|
    .cons (w := []) (by decide) <| .cons (w := [' ']) (by decide) <|
    .nil (w := ['\n']) (by decide)
  have hsize : sampleText.size ≤ 40 := by decide
  exact ⟨_, hword, hE, hprintable, hspaced, runAt_document hword hE hprintable hspaced hsize⟩

end Arrays
end TextGrammar
