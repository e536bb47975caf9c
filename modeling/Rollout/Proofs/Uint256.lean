import Rollout.Proofs.Text.Numerals
import Rollout.Uint256

/-!
# Amounts in text

An amount is read digit by digit in the base that its first two characters select, and underscores
among the digits do not count. A text without any digit is read as zero. What is written in
hexadecimal is read back as the same amount.
-/

namespace Rollout.Uint256

/-- The digits of a number in a base are read in this base as the number. -/
theorem foldlM_push_toDigits {b : ℕ} (hb : 1 < b) (hdigits : b ≤ 16) (n : ℕ) :
    (Nat.toDigits b n).foldlM (push b) 0 = some n := by
  induction n using Nat.strongRecOn with
  | ind n ih =>
    rcases Nat.lt_or_ge n b with hlt | hge
    · have hpush : push b 0 (Nat.digitChar n) = some n := by
        simp [push, Hex.digit?_digitChar (Nat.lt_of_lt_of_le hlt hdigits), hlt]
      rw [Nat.toDigits_of_lt_base hlt, List.foldlM_cons, hpush]
      rfl
    · have hlast : n % b < b := Nat.mod_lt n (by omega)
      have hpush : push b (n / b) (Nat.digitChar (n % b)) = some n := by
        simp [push, Hex.digit?_digitChar (Nat.lt_of_lt_of_le hlast hdigits), hlast,
          Nat.div_add_mod]
      rw [Nat.toDigits_of_base_le hb hge, List.foldlM_append, ih _ (Nat.div_lt_self (by omega) hb)]
      exact (bind_pure (push b (n / b) (Nat.digitChar (n % b)))).trans hpush

/-- A number is written with the digits of its base. -/
theorem exists_digitChar_of_mem_toDigits {b n : ℕ} (hb : 1 < b) {c : Char}
    (hc : c ∈ Nat.toDigits b n) : ∃ d < b, c = Nat.digitChar d := by
  induction n using Nat.strongRecOn with
  | ind n ih =>
    rcases Nat.lt_or_ge n b with hlt | hge
    · rw [Nat.toDigits_of_lt_base hlt, List.mem_singleton] at hc
      exact ⟨n, hlt, hc⟩
    · rw [Nat.toDigits_of_base_le hb hge, List.mem_append, List.mem_singleton] at hc
      rcases hc with hc | hc
      · exact ih _ (Nat.div_lt_self (by omega) hb) hc
      · exact ⟨n % b, Nat.mod_lt n (by omega), hc⟩

/-- A number that fits is the one of its word. -/
theorem ofNat?_eq_some {n : ℕ} {v : Uint256} : ofNat? n = some v ↔ n = v.toNat := by
  unfold ofNat?
  split
  · rename_i hlt
    rw [Option.some.injEq]
    constructor
    · rintro rfl
      exact (Nat.mod_eq_of_lt hlt).symm
    · rintro rfl
      rw [BitVec.ofNat_toNat, BitVec.setWidth_eq]
  · rename_i hlarge
    simp only [reduceCtorEq, false_iff]
    rintro rfl
    exact hlarge v.isLt

/-- A written amount is read back. -/
theorem parse?_hex (v : Uint256) : parse? v.hex = some v := by
  have hkept : (Hex.ofNat v.toNat).filter (· ≠ '_') = Hex.ofNat v.toNat := by
    refine List.filter_eq_self.mpr fun c hc => decide_eq_true fun hunderscore => ?_
    obtain ⟨d, hd, rfl⟩ := exists_digitChar_of_mem_toDigits (by decide) hc
    have hdigit := Hex.digit?_digitChar hd
    rw [hunderscore] at hdigit
    cases hdigit
  have hread : (Hex.ofNat v.toNat).foldlM (push 16) 0 = some v.toNat :=
    foldlM_push_toDigits (by decide) (by decide) v.toNat
  have hfits : ofNat? v.toNat = some v := ofNat?_eq_some.mpr rfl
  simp only [parse?, hex, String.toList_ofList, base, hkept, hread, Option.bind_some, hfits]

variable {b m n : ℕ} {text digits mark : List Char} {c : Char}

/-- A digit is appended when it exists in the base. -/
theorem push_eq_some : push b m c = some n ↔
    ∃ d, Hex.digit? c = some d ∧ d < b ∧ n = b * m + d := by
  unfold push
  cases Hex.digit? c with
  | none => simp
  | some d =>
    by_cases hd : d < b
    · simp [hd, eq_comm]
    · simp [hd]

/-- A number is read from its digits. -/
theorem foldlM_push_eq_some : text.foldlM (push b) 0 = some n ↔ Spells b text n := by
  induction text using List.reverseRecOn generalizing n with
  | nil => simp [spells_nil, eq_comm]
  | append_singleton text c ih =>
    simp only [List.foldlM_append, List.foldlM_cons, List.foldlM_nil, bind_pure,
      Option.bind_eq_bind, Option.bind_eq_some_iff, ih, push_eq_some, spells_append_singleton]
    simp only [exists_and_left]

/-- The marks that may stand in front of digits, with the bases that they select. -/
def marks : List (List Char × ℕ) :=
  [([], 10), (['0', 'x'], 16), (['0', 'X'], 16), (['0', 'o'], 8), (['0', 'O'], 8),
    (['0', 'b'], 2), (['0', 'B'], 2)]

/-- The text is an amount: behind a mark stands a digit at least, and underscores do not count. -/
def Writes (text : List Char) (n : ℕ) : Prop :=
  ∃ mark b digits, (mark, b) ∈ marks ∧ text = mark ++ digits ∧
    digits.filter (· ≠ '_') ≠ [] ∧ Spells b (digits.filter (· ≠ '_')) n

/-- Behind a mark stands no digit, and nothing else than underscores. -/
def Digitless (text : List Char) : Prop :=
  ∃ mark b digits, (mark, b) ∈ marks ∧ text = mark ++ digits ∧ digits.filter (· ≠ '_') = []

/-- A base is selected by one of the marks. -/
theorem exists_mark (text : List Char) :
    ∃ mark, (mark, (base text).1) ∈ marks ∧ text = mark ++ (base text).2 := by
  unfold base
  split
  · exact ⟨['0', 'x'], by simp [marks], rfl⟩
  · exact ⟨['0', 'X'], by simp [marks], rfl⟩
  · exact ⟨['0', 'o'], by simp [marks], rfl⟩
  · exact ⟨['0', 'O'], by simp [marks], rfl⟩
  · exact ⟨['0', 'b'], by simp [marks], rfl⟩
  · exact ⟨['0', 'B'], by simp [marks], rfl⟩
  · exact ⟨[], by simp [marks], rfl⟩

/-- A letter that marks a base does not stand among decimal digits. -/
theorem not_spells_ten_of_mark {rest : List Char} (hc : c ∈ ['x', 'X', 'o', 'O', 'b', 'B']) :
    ¬ Spells 10 (('0' :: c :: rest).filter (· ≠ '_')) n := by
  intro hspells
  have hkept : c ≠ '_' := by
    rintro rfl
    exact absurd hc (by decide)
  have hmem : c ∈ ('0' :: c :: rest).filter (· ≠ '_') := by simp [hkept]
  obtain ⟨d, hd, hdigit⟩ := hspells.exists_digit hmem
  have hlarge : ∀ d ∈ ['x', 'X', 'o', 'O', 'b', 'B'].filterMap Hex.digit?, 10 ≤ d := by decide
  exact absurd hd (Nat.not_lt.mpr (hlarge d (List.mem_filterMap.mpr ⟨c, hc, hdigit⟩)))

/-- A mark in front of digits of its base selects this base. -/
theorem base_of_mem_marks (hmark : (mark, b) ∈ marks)
    (hdigits : Spells b (digits.filter (· ≠ '_')) n) : base (mark ++ digits) = (b, digits) := by
  simp only [marks, List.mem_cons, Prod.mk.injEq, List.not_mem_nil, or_false] at hmark
  rcases hmark with ⟨rfl, rfl⟩ | ⟨rfl, rfl⟩ | ⟨rfl, rfl⟩ | ⟨rfl, rfl⟩ | ⟨rfl, rfl⟩ | ⟨rfl, rfl⟩ |
    ⟨rfl, rfl⟩
  · rw [List.nil_append]
    unfold base
    split
    · exact absurd hdigits (not_spells_ten_of_mark (by simp))
    · exact absurd hdigits (not_spells_ten_of_mark (by simp))
    · exact absurd hdigits (not_spells_ten_of_mark (by simp))
    · exact absurd hdigits (not_spells_ten_of_mark (by simp))
    · exact absurd hdigits (not_spells_ten_of_mark (by simp))
    · exact absurd hdigits (not_spells_ten_of_mark (by simp))
    · rfl
  · rfl
  · rfl
  · rfl
  · rfl
  · rfl
  · rfl

/-- An amount is read from its numerals, and zero from a text without digits. -/
theorem parse?_eq_some {s : String} {v : Uint256} :
    parse? s = some v ↔ Writes s.toList v.toNat ∨ Digitless s.toList ∧ v = 0 := by
  have hread : parse? s = some v ↔ ∃ mark b digits, (mark, b) ∈ marks ∧
      s.toList = mark ++ digits ∧ Spells b (digits.filter (· ≠ '_')) v.toNat := by
    simp only [parse?, Option.bind_eq_some_iff, foldlM_push_eq_some, ofNat?_eq_some]
    constructor
    · rintro ⟨_, hspells, rfl⟩
      obtain ⟨mark, hmark, htext⟩ := exists_mark s.toList
      exact ⟨mark, _, _, hmark, htext, hspells⟩
    · rintro ⟨mark, b, digits, hmark, htext, hspells⟩
      refine ⟨_, ?_, rfl⟩
      rw [htext, base_of_mem_marks hmark hspells]
      exact hspells
  rw [hread]
  constructor
  · rintro ⟨mark, b, digits, hmark, htext, hspells⟩
    by_cases hnone : digits.filter (· ≠ '_') = []
    · rw [hnone, spells_nil] at hspells
      exact Or.inr ⟨⟨mark, b, digits, hmark, htext, hnone⟩, BitVec.eq_of_toNat_eq hspells⟩
    · exact Or.inl ⟨mark, b, digits, hmark, htext, hnone, hspells⟩
  · rintro (⟨mark, b, digits, hmark, htext, -, hspells⟩ | ⟨⟨mark, b, digits, hmark, htext, hnone⟩,
      rfl⟩)
    · exact ⟨mark, b, digits, hmark, htext, hspells⟩
    · exact ⟨mark, b, digits, hmark, htext, by rw [hnone, spells_nil]; rfl⟩

end Rollout.Uint256
