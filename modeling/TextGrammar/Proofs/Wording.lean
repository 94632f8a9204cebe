/-
What records and failures read.

A record that no caller has made can be told from its text, and so can the cause of a failure from
its message, unless a caller has written the message.  The texts begin in ways of their own, and a
number in one of them ends in front of a character that is no digit.
-/
import TextGrammar.Record

namespace TextGrammar

/-! ## What stands behind a number -/

theorem takeWhile_toDigits_append (n : Nat) {c : Char} (hc : c.isDigit = false) (t : Text) :
    (Nat.toDigits 10 n ++ c :: t).takeWhile Char.isDigit = Nat.toDigits 10 n := by
  have hdigits : ∀ x ∈ Nat.toDigits 10 n, x.isDigit = true := fun x hx =>
    Nat.isDigit_of_mem_toDigits (by decide) (by decide) hx
  have hstop : ¬ c.isDigit = true := by rw [hc]; exact Bool.false_ne_true
  rw [List.takeWhile_append_of_pos hdigits, List.takeWhile_cons_of_neg hstop, List.append_nil]

theorem eq_of_toDigits_eq {m n : Nat} (h : Nat.toDigits 10 m = Nat.toDigits 10 n) : m = n :=
  calc
    m = Nat.ofDigitChars 10 (Nat.toDigits 10 m) 0 := Nat.ofDigitChars_ten_toDigits.symm
    _ = Nat.ofDigitChars 10 (Nat.toDigits 10 n) 0 := by rw [h]
    _ = n := Nat.ofDigitChars_ten_toDigits

theorem eq_of_repr_eq {m n : Nat} (h : m.repr = n.repr) : m = n := by
  rw [← String.toList_inj, Nat.toList_repr, Nat.toList_repr] at h
  exact eq_of_toDigits_eq h

theorem eq_of_repr_between {m n : Nat} {s t : String}
    (h : s ++ m.repr ++ t = s ++ n.repr ++ t) : m = n := by
  rw [String.append_left_inj, String.append_right_inj] at h
  exact eq_of_repr_eq h

/-- A number can be read off in front of a character that is no digit. -/
theorem repr_append_inj {m n : Nat} {sep s t : String} {c : Char} {u : Text}
    (hsep : sep.toList = c :: u) (hc : c.isDigit = false)
    (h : m.repr ++ (sep ++ s) = n.repr ++ (sep ++ t)) : m = n ∧ s = t := by
  have hlists := congrArg String.toList h
  simp only [String.toList_append, hsep, Nat.toList_repr, List.cons_append] at hlists
  have hdigits := congrArg (List.takeWhile Char.isDigit) hlists
  rw [takeWhile_toDigits_append m hc, takeWhile_toDigits_append n hc] at hdigits
  obtain rfl := eq_of_toDigits_eq hdigits
  rw [String.append_right_inj, String.append_right_inj] at h
  exact ⟨rfl, h⟩

/-- Texts with beginnings of the same length have the same beginning. -/
theorem eq_of_append_eq {s t u v : String} (hlength : s.length = t.length)
    (h : s ++ u = t ++ v) : s = t := by
  have hlists := congrArg String.toList h
  rw [String.toList_append, String.toList_append] at hlists
  exact String.toList_inj.mp (List.append_inj hlists hlength).1

/-! ## Records -/

namespace Record

variable {r r' : Record}

/-- How the texts begin that no caller has made. -/
def opening : Record → String
  | repetitionEnded _ => "zero-width m"
  | listEnded _ => "zero-width s"
  | succeeded .. => "parse succee"
  | failed .. => "parse failed"
  | tapped .. | noted _ => ""

theorem exists_text_eq_opening (hr : r.isOwn = true) :
    r.opening.length = 12 ∧ ∃ s, r.text = r.opening ++ s := by
  cases r with
  | repetitionEnded n =>
    refine ⟨(rfl : "zero-width m".length = 12),
      "atch at offset " ++ n.repr ++ " ends repetition", ?_⟩
    rw [← String.append_assoc, ← String.append_assoc]
    rfl
  | listEnded n =>
    refine ⟨(rfl : "zero-width s".length = 12),
      "eparator and item at offset " ++ n.repr ++ " end list", ?_⟩
    rw [← String.append_assoc, ← String.append_assoc]
    rfl
  | succeeded a b =>
    refine ⟨(rfl : "parse succee".length = 12),
      "ded: offset " ++ a.repr ++ " -> " ++ b.repr, ?_⟩
    rw [← String.append_assoc, ← String.append_assoc, ← String.append_assoc]
    rfl
  | failed e a m =>
    refine ⟨(rfl : "parse failed".length = 12),
      " at offset " ++ e.repr ++ " (started at " ++ a.repr ++ "): " ++ m, ?_⟩
    rw [← String.append_assoc, ← String.append_assoc, ← String.append_assoc,
      ← String.append_assoc, ← String.append_assoc]
    rfl
  | tapped name a ending | noted t => cases hr

theorem opening_eq_of_text_eq (hr : r.isOwn = true) (hr' : r'.isOwn = true)
    (h : r.text = r'.text) : r.opening = r'.opening := by
  obtain ⟨hlength, s, hs⟩ := exists_text_eq_opening hr
  obtain ⟨hlength', s', hs'⟩ := exists_text_eq_opening hr'
  rw [hs, hs'] at h
  exact eq_of_append_eq (hlength.trans hlength'.symm) h

/-- A record that no caller has made can be told from its text. -/
theorem eq_of_text_eq (hr : r.isOwn = true) (hr' : r'.isOwn = true) (h : r.text = r'.text) :
    r = r' := by
  have hopening := opening_eq_of_text_eq hr hr' h
  cases r with
  | repetitionEnded n =>
    cases r' with
    | repetitionEnded n' =>
      have hn : n = n' :=
        eq_of_repr_between (s := "zero-width match at offset ") (t := " ends repetition") h
      rw [hn]
    | _ => simp [opening] at hopening
  | listEnded n =>
    cases r' with
    | listEnded n' =>
      have hn : n = n' :=
        eq_of_repr_between (s := "zero-width separator and item at offset ") (t := " end list") h
      rw [hn]
    | _ => simp [opening] at hopening
  | succeeded a b =>
    cases r' with
    | succeeded a' b' =>
      replace h : "parse succeeded: offset " ++ a.repr ++ " -> " ++ b.repr =
        "parse succeeded: offset " ++ a'.repr ++ " -> " ++ b'.repr := h
      simp only [String.append_assoc, String.append_right_inj] at h
      obtain ⟨ha, hb⟩ := repr_append_inj rfl rfl h
      rw [ha, eq_of_repr_eq hb]
    | _ => simp [opening] at hopening
  | failed e a m =>
    cases r' with
    | failed e' a' m' =>
      replace h : "parse failed at offset " ++ e.repr ++ " (started at " ++ a.repr ++ "): " ++ m =
        "parse failed at offset " ++ e'.repr ++ " (started at " ++ a'.repr ++ "): " ++ m' := h
      simp only [String.append_assoc, String.append_right_inj] at h
      obtain ⟨he, h⟩ := repr_append_inj rfl rfl h
      obtain ⟨ha, hm⟩ := repr_append_inj rfl rfl h
      rw [he, ha, hm]
    | _ => simp [opening] at hopening
  | tapped name a ending | noted t => cases hr

/-- What the records read that no caller has made, and that nothing else does. -/
theorem text_eq_iff (hr : r.isOwn = true) :
    (∀ n, r.text = s!"zero-width match at offset {n} ends repetition" ↔
      r = .repetitionEnded n) ∧
    (∀ n, r.text = s!"zero-width separator and item at offset {n} end list" ↔
      r = .listEnded n) ∧
    (∀ a b, r.text = s!"parse succeeded: offset {a} -> {b}" ↔ r = .succeeded a b) ∧
    ∀ e a m, r.text = s!"parse failed at offset {e} (started at {a}): " ++ m ↔
      r = .failed e a m := by
  have hiff (r' : Record) (hr' : r'.isOwn = true) : r.text = r'.text ↔ r = r' :=
    ⟨eq_of_text_eq hr hr', congrArg text⟩
  exact ⟨fun n => hiff (.repetitionEnded n) rfl, fun n => hiff (.listEnded n) rfl,
    fun a b => hiff (.succeeded a b) rfl, fun e a m => hiff (.failed e a m) rfl⟩

end Record

/-! ## Causes -/

namespace Cause

variable {x y : Cause}

/-- Whether a caller has written the message. -/
def isMessage : Cause → Bool
  | message _ => true
  | _ => false

/-- How the messages begin that no caller has written. -/
def opening : Cause → String
  | expectedLiteral _ => "Expected \""
  | expectedPattern _ => "Expected p"
  | expectedEndOfInput => "Expected e"
  | expectedAtLeastOne => "Expected a"
  | unexpectedMatch => "Unexpected"
  | noAlternatives => "No alterna"
  | message _ => ""

theorem exists_text_eq_opening (hx : x.isMessage = false) :
    x.opening.length = 10 ∧ ∃ s, x.text = x.opening ++ s := by
  cases x with
  | expectedLiteral t =>
    exact ⟨(rfl : "Expected \"".length = 10), _, String.append_assoc ..⟩
  | expectedPattern s =>
    refine ⟨(rfl : "Expected p".length = 10), "attern " ++ s, ?_⟩
    rw [← String.append_assoc]
    rfl
  | expectedEndOfInput => exact ⟨(rfl : "Expected e".length = 10), "nd of input", rfl⟩
  | expectedAtLeastOne => exact ⟨(rfl : "Expected a".length = 10), "t least one match", rfl⟩
  | unexpectedMatch => exact ⟨(rfl : "Unexpected".length = 10), " match", rfl⟩
  | noAlternatives => exact ⟨(rfl : "No alterna".length = 10), "tives to choose from", rfl⟩
  | message t => cases hx

/-- A cause can be told from its message, unless a caller has written it. -/
theorem eq_of_text_eq (hx : x.isMessage = false) (hy : y.isMessage = false)
    (h : x.text = y.text) : x = y := by
  obtain ⟨hlength, s, hs⟩ := exists_text_eq_opening hx
  obtain ⟨hlength', s', hs'⟩ := exists_text_eq_opening hy
  have hopening : x.opening = y.opening :=
    eq_of_append_eq (hlength.trans hlength'.symm) (hs.symm.trans (h.trans hs'))
  cases x with
  | expectedLiteral t =>
    cases y with
    | expectedLiteral t' =>
      replace h : "Expected \"" ++ String.ofList t ++ "\"" =
        "Expected \"" ++ String.ofList t' ++ "\"" := h
      rw [String.append_left_inj, String.append_right_inj, String.ofList_inj] at h
      rw [h]
    | _ => simp [opening] at hopening
  | expectedPattern s =>
    cases y with
    | expectedPattern s' => rw [(String.append_right_inj "Expected pattern ").mp h]
    | _ => simp [opening] at hopening
  | message t => cases hx
  | _ =>
    cases y with
    | message t => cases hy
    | _ => first | rfl | simp [opening] at hopening

/-- What the messages read that no caller has written, and that no other one does. -/
theorem text_eq_iff (hx : x.isMessage = false) :
    (∀ t, x.text = "Expected \"" ++ String.ofList t ++ "\"" ↔ x = .expectedLiteral t) ∧
    (∀ s, x.text = "Expected pattern " ++ s ↔ x = .expectedPattern s) ∧
    (x.text = "Expected end of input" ↔ x = .expectedEndOfInput) ∧
    (x.text = "Expected at least one match" ↔ x = .expectedAtLeastOne) ∧
    (x.text = "Unexpected match" ↔ x = .unexpectedMatch) ∧
    (x.text = "No alternatives to choose from" ↔ x = .noAlternatives) := by
  have hiff (y : Cause) (hy : y.isMessage = false) : x.text = y.text ↔ x = y :=
    ⟨eq_of_text_eq hx hy, congrArg text⟩
  exact ⟨fun t => hiff (.expectedLiteral t) rfl, fun s => hiff (.expectedPattern s) rfl,
    hiff .expectedEndOfInput rfl, hiff .expectedAtLeastOne rfl, hiff .unexpectedMatch rfl,
    hiff .noAlternatives rfl⟩

end Cause
end TextGrammar
