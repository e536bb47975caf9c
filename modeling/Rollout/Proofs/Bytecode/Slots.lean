import Mathlib.Data.List.DropRight
import Rollout.Proofs.Bytecode.Pieces

/-!
# Slots

Code that is not linked yet is a sequence of digits and slots, and both kinds of placeholder are
slots: a tag between underscores, forty characters in all. Nothing separates the pieces, so a
placeholder could also occur across their bounds. It does not as long as the tags keep to a few
rules.
-/

namespace Rollout

/-- The forty characters with a tag between their underscores. -/
def slot (tag : List Char) : List Char :=
  ['_', '_'] ++ tag ++ List.replicate (placeholderLength - 2 - tag.length) '_'

/-- A tag that is told from everything around it by two underscores on either side. -/
structure IsTag (tag : List Char) : Prop where
  ne_nil : tag ≠ []
  head?_ne : tag.head? ≠ some '_'
  getLast?_ne : tag.getLast? ≠ some '_'
  /-- There are no two underscores in a row. -/
  single : ¬ ['_', '_'] <:+: tag
  length_le : tag.length ≤ 36
  /-- The longest tags have only two underscores behind them, as digits have before a slot. -/
  exists_not_isDigit : tag.length = 36 → ∃ c ∈ tag, ¬ Hex.isDigit c

/-- The piece of a code is a slot. -/
def IsSlot (piece : List Char) : Prop :=
  ∃ tag, IsTag tag ∧ piece = slot tag

variable {tag other digits text : List Char} {pieces : List (List Char)}

/-- A tag does not end inside the underscores that follow it. -/
theorem IsTag.eq_nil {front back rest : List Char} (htag : IsTag (front ++ back))
    (hback : back ++ rest = '_' :: '_' :: text) : back = [] := by
  match back with
  | [] => rfl
  | [c] =>
    obtain ⟨rfl, -⟩ := List.cons.inj hback
    exact absurd (by simp) htag.getLast?_ne
  | c :: d :: back =>
    obtain ⟨rfl, hd⟩ := List.cons.inj hback
    obtain ⟨rfl, -⟩ := List.cons.inj hd
    exact absurd ⟨front, back, by simp⟩ htag.single

/-- Two tags in front of two underscores each are the same in the same text. -/
theorem IsTag.eq_of_append (htag : IsTag tag) (hother : IsTag other) {x y : List Char}
    (heq : tag ++ '_' :: '_' :: x = other ++ '_' :: '_' :: y) : tag = other := by
  rcases List.append_eq_append_iff.mp heq with ⟨back, rfl, hback⟩ | ⟨back, rfl, hback⟩
  · rw [hother.eq_nil hback.symm, List.append_nil]
  · rw [htag.eq_nil hback.symm, List.append_nil]

/-- At least two underscores follow a tag in its slot. -/
theorem IsTag.slot_eq (htag : IsTag tag) :
    slot tag = '_' :: '_' :: (tag ++ '_' :: '_' :: List.replicate (36 - tag.length) '_') := by
  have hlength := htag.length_le
  have hpadding : placeholderLength - 2 - tag.length = 36 - tag.length + 2 := by
    simp only [placeholderLength]
    omega
  rw [slot, hpadding]
  rfl

/-- A slot is as long as the text of an address. -/
theorem IsTag.length_slot (htag : IsTag tag) : (slot tag).length = placeholderLength := by
  have hlength := htag.length_le
  simp only [htag.slot_eq, placeholderLength, List.length_cons, List.length_append,
    List.length_replicate]
  omega

/-- Slots of different tags are different. -/
theorem IsTag.slot_inj (htag : IsTag tag) (hother : IsTag other) :
    slot tag = slot other ↔ tag = other := by
  refine ⟨fun heq => ?_, congrArg slot⟩
  rw [htag.slot_eq, hother.slot_eq, List.cons.injEq, List.cons.injEq] at heq
  exact htag.eq_of_append hother heq.2.2

/-- No tag ends where the underscores of a slot begin behind digits: too few of them follow. -/
theorem IsTag.not_prefix_digits (htag : IsTag tag) (hdigits : IsDigits digits)
    (hpieces : ∀ x ∈ pieces, IsDigits x ∨ IsSlot x) :
    ¬ tag ++ '_' :: '_' :: List.replicate (36 - tag.length) '_' <+: digits ++ pieces.flatten := by
  induction pieces generalizing digits with
  | nil =>
    intro hbegins
    rw [List.flatten_nil, List.append_nil] at hbegins
    exact hdigits.ne_underscore (hbegins.subset (by simp)) rfl
  | cons x pieces ih =>
    rw [List.forall_mem_cons] at hpieces
    obtain ⟨hx, hpieces⟩ := hpieces
    rcases hx with hx | ⟨other, hother, rfl⟩
    · have hboth : IsDigits (digits ++ x) := List.forall_mem_append.mpr ⟨hdigits, hx⟩
      rw [List.flatten_cons, ← List.append_assoc]
      exact ih hboth hpieces
    · rintro ⟨rest, hrest⟩
      rw [List.flatten_cons, hother.slot_eq, List.append_assoc] at hrest
      have hends : tag = digits := by
        rcases List.append_eq_append_iff.mp hrest with ⟨back, rfl, hback⟩ | ⟨back, rfl, hback⟩
        · cases back with
          | nil => simp
          | cons c back =>
            have hc : '_' = c := (List.cons.inj hback).1
            exact absurd hc.symm (hdigits.ne_underscore (by simp))
        · rw [htag.eq_nil hback.symm, List.append_nil]
      subst hends
      have hpadding := List.append_cancel_left hrest
      by_cases hlength : tag.length = 36
      · obtain ⟨c, hc, hnot⟩ := htag.exists_not_isDigit hlength
        exact hnot (hdigits c hc)
      · have hshort := htag.length_le
        obtain ⟨n, hn⟩ : ∃ n, 36 - tag.length = n + 1 := ⟨35 - tag.length, by omega⟩
        obtain ⟨c, tail, rfl⟩ := List.exists_cons_of_ne_nil hother.ne_nil
        rw [hn, List.replicate_succ] at hpadding
        simp only [List.cons_append, List.cons.injEq, true_and] at hpadding
        exact hother.head?_ne (by rw [← hpadding.1]; rfl)

/-- Pieces do not begin with a single underscore in front of a tag. -/
theorem IsTag.not_prefix_flatten (htag : IsTag tag)
    (hpieces : ∀ x ∈ pieces, IsDigits x ∨ IsSlot x) :
    ¬ '_' :: tag <+: pieces.flatten := by
  induction pieces with
  | nil => simp
  | cons x pieces ih =>
    rw [List.forall_mem_cons] at hpieces
    obtain ⟨hx, hpieces⟩ := hpieces
    rw [List.flatten_cons]
    rintro ⟨rest, hrest⟩
    rcases hx with hx | ⟨other, hother, rfl⟩
    · cases x with
      | nil => exact ih hpieces ⟨rest, hrest⟩
      | cons c x =>
        have hc : '_' = c := (List.cons.inj hrest).1
        exact hx.ne_underscore List.mem_cons_self hc.symm
    · obtain ⟨c, tail, rfl⟩ := List.exists_cons_of_ne_nil htag.ne_nil
      rw [hother.slot_eq] at hrest
      have hc : c = '_' := (List.cons.inj (List.cons.inj hrest).2).1
      exact htag.head?_ne (by rw [hc]; rfl)

/-- No slot of a tag begins at an underscore in front of pieces. -/
theorem IsTag.not_prefix_underscores (htag : IsTag tag)
    (hpieces : ∀ x ∈ pieces, IsDigits x ∨ IsSlot x) {count : ℕ} (hcount : 0 < count) :
    ¬ slot tag <+: List.replicate count '_' ++ pieces.flatten := by
  rintro ⟨rest, hrest⟩
  rw [htag.slot_eq] at hrest
  match count with
  | 1 =>
    refine htag.not_prefix_flatten hpieces ⟨'_' :: '_' ::
      (List.replicate (36 - tag.length) '_' ++ rest), ?_⟩
    simpa using hrest
  | 2 =>
    have hnone : IsDigits [] := by simp [IsDigits]
    refine htag.not_prefix_digits hnone hpieces ⟨rest, ?_⟩
    simpa using hrest
  | n + 3 =>
    obtain ⟨c, tail, rfl⟩ := List.exists_cons_of_ne_nil htag.ne_nil
    simp only [List.replicate_succ, List.cons_append, List.cons.injEq, true_and] at hrest
    exact htag.head?_ne (by rw [hrest.1]; rfl)

/-- Inside a slot, and across its end, no slot of a tag begins. -/
theorem IsTag.not_prefix_drop (htag : IsTag tag) (hother : IsTag other)
    (hpieces : ∀ x ∈ pieces, IsDigits x ∨ IsSlot x) {i : ℕ} (hi : i < placeholderLength)
    (hne : i = 0 → tag ≠ other) : ¬ slot tag <+: (slot other ++ pieces.flatten).drop i := by
  have hlength := hother.length_le
  simp only [placeholderLength] at hi
  by_cases hend : other.length + 2 ≤ i
  · have hdrop : (slot other ++ pieces.flatten).drop i =
        List.replicate (40 - i) '_' ++ pieces.flatten := by
      rw [slot, List.append_assoc, List.drop_append, List.drop_eq_nil_of_le hend,
        List.nil_append, List.drop_append_of_le_length (by simp [placeholderLength]; omega),
        List.drop_replicate]
      congr 2
      simp [placeholderLength]
      omega
    rw [hdrop]
    exact htag.not_prefix_underscores hpieces (by omega)
  · rintro ⟨rest, hrest⟩
    rw [htag.slot_eq, hother.slot_eq] at hrest
    cases i with
    | zero =>
      simp only [List.drop_zero, List.cons_append, List.append_assoc, List.cons.injEq,
        true_and] at hrest
      exact hne rfl (htag.eq_of_append hother hrest)
    | succ i =>
      cases i with
      | zero =>
        obtain ⟨c, tail, rfl⟩ := List.exists_cons_of_ne_nil hother.ne_nil
        simp only [List.drop_succ_cons, List.drop_zero, List.cons_append, List.cons.injEq,
          true_and] at hrest
        exact hother.head?_ne (by rw [← hrest.1]; rfl)
      | succ j =>
        have hj : j < other.length := by omega
        simp only [List.cons_append, List.append_assoc, List.drop_succ_cons] at hrest
        rw [List.drop_append_of_le_length hj.le] at hrest
        have hsplit : IsTag (other.take j ++ other.drop j) := by rwa [List.take_append_drop]
        have hnil := hsplit.eq_nil hrest.symm
        rw [List.drop_eq_nil_iff] at hnil
        omega

/-- The slot of a tag occurs among digits and slots as a piece only. -/
theorem IsTag.occursAsPiece (htag : IsTag tag) (hpieces : ∀ x ∈ pieces, IsDigits x ∨ IsSlot x) :
    OccursAsPiece (slot tag) pieces := by
  induction pieces with
  | nil =>
    intro before after heq
    simp [htag.slot_eq] at heq
  | cons x pieces ih =>
    intro before after heq
    rw [List.forall_mem_cons] at hpieces
    obtain ⟨hx, hpieces⟩ := hpieces
    rw [List.flatten_cons] at heq
    by_cases hinside : before.length < x.length
    · have hbegins : slot tag <+: (x ++ pieces.flatten).drop before.length :=
        ⟨after, by rw [heq, List.drop_left]⟩
      rcases hx with hx | ⟨other, hother, rfl⟩
      · obtain ⟨rest, hrest⟩ := hbegins
        rw [htag.slot_eq, List.drop_append_of_le_length hinside.le,
          List.drop_eq_getElem_cons hinside] at hrest
        exact absurd (List.cons.inj hrest).1.symm (hx.ne_underscore (List.getElem_mem hinside))
      · by_cases hsame : before.length = 0 ∧ tag = other
        · obtain ⟨hnil, rfl⟩ := hsame
          exact ⟨[], pieces, rfl, (List.length_eq_zero_iff.mp hnil).symm⟩
        · rw [hother.length_slot] at hinside
          exact absurd hbegins
            (htag.not_prefix_drop hother hpieces hinside fun h h' => hsame ⟨h, h'⟩)
    · obtain ⟨more, rfl⟩ := List.prefix_of_prefix_length_le (List.prefix_append x pieces.flatten)
        (heq ▸ List.prefix_append _ _) (Nat.le_of_not_lt hinside)
      rw [List.append_assoc, List.append_right_inj] at heq
      obtain ⟨front, back, rfl, rfl⟩ := ih hpieces _ _ heq
      exact ⟨x :: front, back, rfl, rfl⟩

end Rollout
