import Mathlib.Data.List.Induction
import Mathlib.Data.Nat.Digits.Defs
import Rollout.Proofs.Outcome
import Rollout.Text.Numerals

/-!
# Numerals

A numeral is a list of digits of one base, the highest first. The unsigned numerals of settings and
flags have at least one decimal digit and perhaps a plus sign in front.
-/

namespace Rollout

variable {b n : ℕ} {text : List Char} {c : Char}

/-- The text consists of digits of a base, and this is the number that they stand for. -/
def Spells (b : ℕ) (text : List Char) (n : ℕ) : Prop :=
  ∃ digits : List ℕ, text.map Hex.digit? = digits.map some ∧ (∀ d ∈ digits, d < b) ∧
    n = Nat.ofDigits b digits.reverse

/-- No digits stand for zero. -/
theorem spells_nil : Spells b [] n ↔ n = 0 := by
  constructor
  · rintro ⟨digits, hdigits, -, rfl⟩
    obtain rfl := List.map_eq_nil_iff.mp hdigits.symm
    rfl
  · rintro rfl
    exact ⟨[], rfl, by simp, rfl⟩

/-- One more digit shifts the others by one place. -/
theorem spells_append_singleton : Spells b (text ++ [c]) n ↔
    ∃ m d, Spells b text m ∧ Hex.digit? c = some d ∧ d < b ∧ n = b * m + d := by
  constructor
  · rintro ⟨digits, hdigits, hlt, rfl⟩
    rw [List.map_append] at hdigits
    obtain ⟨front, last, rfl, hfront, hlast⟩ := List.map_eq_append_iff.mp hdigits.symm
    obtain ⟨d, rfl, hd⟩ := List.map_eq_singleton_iff.mp hlast
    simp only [List.mem_append, List.mem_singleton] at hlt
    refine ⟨_, d, ⟨front, hfront.symm, fun d' hd' => hlt d' (Or.inl hd'), rfl⟩, hd.symm,
      hlt d (Or.inr rfl), ?_⟩
    rw [List.reverse_append, List.reverse_singleton, List.singleton_append, Nat.ofDigits_cons,
      Nat.add_comm]
  · rintro ⟨m, d, ⟨digits, hdigits, hlt, rfl⟩, hd, hlast, rfl⟩
    refine ⟨digits ++ [d], by simp [hdigits, hd], ?_, ?_⟩
    · intro d' hd'
      rcases List.mem_append.mp hd' with hd' | hd'
      · exact hlt d' hd'
      · exact List.mem_singleton.mp hd' ▸ hlast
    · rw [List.reverse_append, List.reverse_singleton, List.singleton_append, Nat.ofDigits_cons,
        Nat.add_comm]

/-- All characters of a numeral are digits of its base. -/
theorem Spells.exists_digit (h : Spells b text n) (hc : c ∈ text) :
    ∃ d < b, Hex.digit? c = some d := by
  obtain ⟨digits, hdigits, hlt, -⟩ := h
  have hmem : Hex.digit? c ∈ digits.map some := hdigits ▸ List.mem_map_of_mem hc
  obtain ⟨d, hd, hdigit⟩ := List.mem_map.mp hmem
  exact ⟨d, hlt d hd, hdigit.symm⟩

namespace Decimal

/-- A decimal digit is a hexadecimal one below ten. -/
theorem digit?_eq_some {d : ℕ} : digit? c = some d ↔ Hex.digit? c = some d ∧ d < 10 := by
  have hisDigit : c.isDigit = true ↔ '0' ≤ c ∧ c ≤ '9' := by
    simp [Char.isDigit, Char.le_def]
  by_cases hdecimal : '0' ≤ c ∧ c ≤ '9'
  · have hsmall : c.toNat - '0'.toNat < 10 := by
      have hle : c.toNat ≤ '9'.toNat := hdecimal.2
      have hnine : '9'.toNat - '0'.toNat < 10 := by decide
      omega
    simp only [digit?, Hex.digit?, hisDigit, if_pos hdecimal, Option.some.injEq]
    exact ⟨fun h => ⟨h, h ▸ hsmall⟩, fun h => h.1⟩
  · simp only [digit?, Hex.digit?, hisDigit, if_neg hdecimal, reduceCtorEq, false_iff, not_and,
      not_lt]
    intro hletter
    split at hletter
    · cases hletter
      exact Nat.le_add_left 10 _
    · split at hletter
      · cases hletter
        exact Nat.le_add_left 10 _
      · cases hletter

/-- A digit is appended when the number stays below the bound. -/
theorem push_eq_ok {bound m : ℕ} : push bound m c = .ok n ↔
    ∃ d, Hex.digit? c = some d ∧ d < 10 ∧ n = 10 * m + d ∧ n < bound := by
  have hvalue : push bound m c = .ok n ↔ ∃ d, digit? c = some d ∧ n = 10 * m + d ∧ n < bound := by
    unfold push
    cases digit? c with
    | none => simp
    | some d =>
      by_cases hlt : 10 * m + d < bound
      · simp only [hlt, if_pos, Except.ok.injEq, Option.some.injEq, exists_eq_left']
        exact ⟨fun h => ⟨h.symm, h ▸ hlt⟩, fun h => h.1.symm⟩
      · simp only [hlt, if_false, reduceCtorEq, Option.some.injEq, exists_eq_left', false_iff]
        rintro ⟨rfl, hbelow⟩
        exact hlt hbelow
  simp only [hvalue, digit?_eq_some, and_assoc]

/-- A number below a bound is read from its digits. -/
theorem foldlM_push_eq_ok {bound : ℕ} (hbound : 0 < bound) :
    text.foldlM (push bound) 0 = .ok n ↔ Spells 10 text n ∧ n < bound := by
  induction text using List.reverseRecOn generalizing n with
  | nil =>
    rw [List.foldlM_nil, spells_nil]
    simp only [Pure.pure, Except.pure, Except.ok.injEq]
    exact ⟨fun h => ⟨h.symm, h ▸ hbound⟩, fun h => h.1.symm⟩
  | append_singleton text c ih =>
    simp only [List.foldlM_append, List.foldlM_cons, List.foldlM_nil, bind_pure, bind_eq_ok, ih,
      push_eq_ok, spells_append_singleton]
    constructor
    · rintro ⟨m, ⟨hspells, -⟩, d, hdigit, hd, hn, hlt⟩
      exact ⟨⟨m, d, hspells, hdigit, hd, hn⟩, hlt⟩
    · rintro ⟨⟨m, d, hspells, hdigit, hd, hn⟩, hlt⟩
      exact ⟨m, ⟨hspells, by omega⟩, d, hdigit, hd, hn, hlt⟩

/-- The text is an unsigned numeral: a plus sign may come first, and there is a digit. -/
def Writes (text : List Char) (n : ℕ) : Prop :=
  ∃ digits, (text = digits ∨ text = '+' :: digits) ∧ digits ≠ [] ∧ Spells 10 digits n

/-- A plus sign is no digit. -/
theorem not_spells_plus {rest : List Char} : ¬ Spells 10 ('+' :: rest) n := by
  intro hspells
  obtain ⟨d, -, hdigit⟩ := hspells.exists_digit List.mem_cons_self
  exact absurd hdigit (by simp [Hex.digit?])

/-- A number below a bound is read from its numerals and from nothing else. -/
theorem readBelow_eq_ok {bound : ℕ} (hbound : 0 < bound) :
    readBelow bound text = .ok n ↔ Writes text n ∧ n < bound := by
  unfold readBelow
  split
  · simp [Writes]
  · simp [Writes, not_spells_plus]
  · rename_i rest hrest
    have hdigits : rest ≠ [] := fun hnil => hrest (hnil ▸ rfl)
    have hwrites : Writes ('+' :: rest) n ↔ Spells 10 rest n := by
      simp [Writes, or_and_right, exists_or, not_spells_plus, hdigits]
    rw [foldlM_push_eq_ok hbound, hwrites]
  · rename_i hempty _ hplus
    have hwrites : Writes text n ↔ Spells 10 text n := by
      constructor
      · rintro ⟨digits, rfl | rfl, -, hspells⟩
        · exact hspells
        · exact absurd rfl (hplus digits)
      · exact fun hspells => ⟨text, Or.inl rfl, hempty, hspells⟩
    rw [foldlM_push_eq_ok hbound, hwrites]

/-- A number of 64 bits is read from its numerals and from nothing else. -/
theorem readUInt64_eq_ok {v : UInt64} : readUInt64 text = .ok v ↔ Writes text v.toNat := by
  have hbound : 0 < Nat.pow 2 64 := by decide
  simp only [readUInt64, map_eq_ok, readBelow_eq_ok hbound]
  constructor
  · rintro ⟨n, ⟨hwrites, hlt⟩, rfl⟩
    rwa [UInt64.toNat_ofNat_of_lt' hlt]
  · exact fun hwrites => ⟨v.toNat, ⟨hwrites, v.toNat_lt⟩, UInt64.ofNat_toNat⟩

end Decimal

end Rollout
