import Mathlib.Data.List.TakeWhile
import Rollout.Json.Printer
import Rollout.Json.Reader

/-!
# Literals read back

A whole number is written by its decimal digits and a string between quotation marks, with some of
its characters escaped. The reader takes in their text one character at a time and ends up with the
same number and the same string.
-/

namespace Rollout

namespace Decimal

/-- The digits of a number are decimal digits. -/
theorem isDigit_of_mem_digits {n : ℕ} {c : Char} (hc : c ∈ digits n) : c.isDigit = true :=
  Nat.isDigit_of_mem_toDigits (by decide) (by decide) hc

/-- The digits of a number have the number as their value. -/
theorem value_digits (n : ℕ) : value (digits n) = n := by
  have hvalue (text : List Char) (hdigits : ∀ c ∈ text, c.isDigit = true) (start : ℕ) :
      text.foldl (fun n c => 10 * n + (digit? c).getD 0) start =
        Nat.ofDigitChars 10 text start := by
    rw [Nat.ofDigitChars_eq_foldl]
    induction text generalizing start with
    | nil => rfl
    | cons c text ih =>
      rw [List.forall_mem_cons] at hdigits
      rw [List.foldl_cons, List.foldl_cons, ih hdigits.2]
      simp [digit?, hdigits.1]
  rw [value, hvalue _ (fun c hc => isDigit_of_mem_digits hc) 0]
  exact Nat.ofDigitChars_ten_toDigits

/-- Only the digits of zero begin with a zero. -/
theorem eq_zero_of_head?_digits {n : ℕ} (hhead : (digits n).head? = some '0') : n = 0 := by
  induction n using Nat.strongRecOn with
  | ind n ih =>
    rcases Nat.lt_or_ge n 10 with hlt | hge
    · rw [digits, Nat.toDigits_of_lt_base hlt] at hhead
      simpa using hhead
    · rw [digits, Nat.toDigits_of_base_le (by decide) hge,
        List.head?_append, Option.or_of_isSome (by simp [Nat.toDigits_ne_nil])] at hhead
      have hquotient := ih (n / 10) (by omega) hhead
      omega

end Decimal

namespace Numeral

/-- The number is whole and written without an exponent. -/
def IsPlain (x : Numeral) : Prop :=
  x.places = none ∧ x.exponent = none

/-- A plain number is written by its digits behind its sign. -/
theorem numeral_eq {x : Numeral} (hplain : x.IsPlain) :
    Json.numeral x = (if x.negative then ['-'] else []) ++ Decimal.digits x.digits := by
  simp [Json.numeral, hplain.1, hplain.2]

/-- The digits of a number are read as the number. -/
theorem readUnsigned?_digits (negative : Bool) (n : ℕ) :
    readUnsigned? negative (Decimal.digits n) = some ⟨negative, n, none, none⟩ := by
  have hall : ∀ c ∈ Decimal.digits n, c.isDigit = true := fun c => Decimal.isDigit_of_mem_digits
  have hspan : spanDigits (Decimal.digits n) = (Decimal.digits n, []) :=
    Prod.ext (List.takeWhile_eq_self_iff.mpr hall) (List.dropWhile_eq_nil_iff.mpr hall)
  have hleading : ¬ (Decimal.digits n = [] ∨
      (Decimal.digits n).head? = some '0' ∧ 1 < (Decimal.digits n).length) := by
    rintro (hnil | ⟨hhead, hlength⟩)
    · exact Nat.toDigits_ne_nil hnil
    · obtain rfl := Decimal.eq_zero_of_head?_digits hhead
      exact absurd hlength (by decide)
  simp only [readUnsigned?, hspan, if_neg hleading, readEnd?, Decimal.value_digits]

/-- A plain number is read back from its text. -/
theorem parse?_numeral {x : Numeral} (hplain : x.IsPlain) :
    parse? (Json.numeral x) = some x := by
  rw [numeral_eq hplain]
  obtain ⟨negative, n, places, exponent⟩ := x
  obtain ⟨rfl, rfl⟩ := hplain
  cases negative with
  | true => exact readUnsigned?_digits true n
  | false =>
    have hdigits := readUnsigned?_digits false n
    cases hcons : Decimal.digits n with
    | nil => exact absurd hcons Nat.toDigits_ne_nil
    | cons c rest =>
      have hc : c.isDigit = true := Decimal.isDigit_of_mem_digits (hcons ▸ List.mem_cons_self)
      have hminus : c ≠ '-' := by
        rintro rfl
        exact absurd hc (by decide)
      rw [hcons] at hdigits
      simpa [parse?, hminus] using hdigits

end Numeral

namespace Json

/-- The characters of a text are no surrogates, so their codes are read as the text. -/
theorem ofCodes?_map_toNat (text : List Char) : ofCodes? (text.map Char.toNat) = some text := by
  induction text with
  | nil => rfl
  | cons c text ih =>
    have hvalid : c.toNat < 0xd800 ∨ 0xdfff < c.toNat ∧ c.toNat < 0x110000 := c.valid
    rw [List.map_cons, ofCodes?.eq_def]
    simp only [ih, Option.map_some, Char.ofNat_toNat]
    rw [if_neg (by omega), if_neg (by omega)]

namespace Reader

/-- Take in the characters of a text. -/
def feed (r : Reader) (text : List Char) : Option Reader :=
  text.foldlM step r

@[simp]
theorem feed_nil (r : Reader) : r.feed [] = some r := rfl

@[simp]
theorem feed_cons (r : Reader) (c : Char) (text : List Char) :
    r.feed (c :: text) = (r.step c).bind (·.feed text) := rfl

/-- A text is taken in part by part. -/
theorem feed_append (r : Reader) (text more : List Char) :
    r.feed (text ++ more) = (r.feed text).bind (·.feed more) :=
  List.foldlM_append

variable {frames : List Frame}

/-- The characters of a number are collected. -/
theorem feed_number {text : List Char} (htext : ∀ c ∈ text, isNumberChar c = true)
    (chars : List Char) :
    feed ⟨frames, .number chars⟩ text = some ⟨frames, .number (text.reverse ++ chars)⟩ := by
  induction text generalizing chars with
  | nil => rfl
  | cons c text ih =>
    rw [List.forall_mem_cons] at htext
    have hstep : step ⟨frames, .number chars⟩ c = some ⟨frames, .number (c :: chars)⟩ :=
      if_pos htext.1
    rw [feed_cons, hstep, Option.bind_some, ih htext.2, List.reverse_cons, List.append_assoc]
    rfl

/-- A digit of an escaped code counts in the code, which is complete with its last digit. -/
theorem step_code (frames : List Frame) (isKey : Bool) (codes : List ℕ) (missing value : ℕ) {d : ℕ}
    (hd : d < 16) :
    step ⟨frames, .text isKey codes (.code missing value)⟩ (Nat.digitChar d) =
      if missing ≤ 1 then some ⟨frames, .text isKey ((16 * value + d) :: codes) .plain⟩
      else some ⟨frames, .text isKey codes (.code (missing - 1) (16 * value + d))⟩ := by
  simp only [step, stepText, Hex.digit?_digitChar hd, Option.bind_some]

/-- A control character is taken in from the digits of its code. -/
theorem feed_code (isKey : Bool) (codes : List ℕ) {n : ℕ} (hn : n < 0x20) :
    feed ⟨frames, .text isKey codes .plain⟩
        ['\\', 'u', '0', '0', Nat.digitChar (n / 16), Nat.digitChar (n % 16)] =
      some ⟨frames, .text isKey (n :: codes) .plain⟩ := by
  have hopen : feed ⟨frames, .text isKey codes .plain⟩ ['\\', 'u', '0', '0'] =
      some ⟨frames, .text isKey codes (.code 2 0)⟩ := rfl
  have hhigh := step_code frames isKey codes 2 0 (d := n / 16) (by omega)
  have hlow := step_code frames isKey codes 1 (n / 16) (d := n % 16) (by omega)
  have hwhole : 16 * (n / 16) + n % 16 = n := Nat.div_add_mod n 16
  simp only [Nat.reduceLeDiff, ↓reduceIte, Nat.mul_zero, Nat.zero_add, Nat.reduceSub] at hhigh
  simp only [le_refl, ↓reduceIte, hwhole] at hlow
  rw [← List.take_append_drop 4 ['\\', 'u', '0', '0', _, _], feed_append]
  simp only [List.take, List.drop, hopen, Option.bind_some, feed_cons, hhigh, hlow, feed_nil]

/-- The escaped form of a character is taken in as the character. -/
theorem feed_escape (isKey : Bool) (codes : List ℕ) (c : Char) :
    feed ⟨frames, .text isKey codes .plain⟩ (escape c) =
      some ⟨frames, .text isKey (c.toNat :: codes) .plain⟩ := by
  by_cases hspecial : c = '"' ∨ c = '\\' ∨ c = '\n' ∨ c = '\r' ∨ c = '\t'
  · rcases hspecial with rfl | rfl | rfl | rfl | rfl <;> rfl
  simp only [not_or] at hspecial
  obtain ⟨hquote, hbackslash, hnewline, hreturn, htab⟩ := hspecial
  simp only [escape, hquote, hbackslash, hnewline, hreturn, htab, ↓reduceIte]
  split
  · rename_i hc
    rw [hc]
    rfl
  split
  · rename_i hc
    rw [hc]
    rfl
  split
  · rename_i hc
    exact feed_code isKey codes hc
  · rename_i hc
    simp [step, stepText, hquote, hbackslash, hc]

/-- The text between the quotation marks is taken in as the string. -/
theorem feed_flatMap_escape (isKey : Bool) (codes : List ℕ) (text : List Char) :
    feed ⟨frames, .text isKey codes .plain⟩ (text.flatMap escape) =
      some ⟨frames, .text isKey ((text.map Char.toNat).reverse ++ codes) .plain⟩ := by
  induction text generalizing codes with
  | nil => rfl
  | cons c text ih =>
    rw [List.flatMap_cons, feed_append, feed_escape, Option.bind_some, ih]
    simp

/-- Behind its first quotation mark, a string is taken in with the mark at its end. -/
theorem feed_quote (isKey : Bool) (s : String) :
    feed ⟨frames, .text isKey [] .plain⟩ (s.toList.flatMap escape ++ ['"']) =
      some (if isKey then ⟨frames, .colon (some s)⟩ else accept frames (.string s)) := by
  have hend : step ⟨frames, .text isKey ((s.toList.map Char.toNat).reverse ++ []) .plain⟩ '"' =
      some (acceptText frames isKey ((s.toList.map Char.toNat).reverse ++ [])) := rfl
  rw [feed_append, feed_flatMap_escape, Option.bind_some, feed_cons, hend, Option.bind_some,
    feed_nil]
  simp [acceptText, ofCodes?_map_toNat]

end Reader

end Json

end Rollout
