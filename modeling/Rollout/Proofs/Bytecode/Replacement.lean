import Mathlib.Data.Nat.Notation
import Rollout.Bytecode.Template

/-!
# Replacing occurrences

The occurrences of a pattern are replaced from left to right: a character at which none begins is
kept, and an occurrence is passed over as a whole. A part of the text that no occurrence can reach
into is kept as it is.
-/

namespace Rollout

variable {pattern new text text' : List Char} {count : ℕ}

/-- What is left of the occurrence before is passed over. -/
theorem replaceFrom_eq (pattern new : List Char) (skip : ℕ) (text : List Char) :
    replaceFrom pattern new skip text = replaceAll pattern new (text.drop skip) := by
  induction text generalizing skip with
  | nil => cases skip <;> rfl
  | cons c text ih =>
    cases skip with
    | zero => rfl
    | succ skip => exact ih skip

/-- A character is kept when no occurrence begins at it. -/
theorem replaceAll_cons {c : Char} (hc : ¬ pattern <+: c :: text) :
    replaceAll pattern new (c :: text) =
      (c :: (replaceAll pattern new text).1, (replaceAll pattern new text).2) := by
  rw [replaceAll, replaceFrom, if_neg (by rwa [List.isPrefixOf_iff_prefix])]
  rfl

/-- An occurrence is replaced as a whole. -/
theorem replaceAll_pattern (hpattern : pattern ≠ []) (new text : List Char) :
    replaceAll pattern new (pattern ++ text) =
      (new ++ (replaceAll pattern new text).1, (replaceAll pattern new text).2 + 1) := by
  obtain ⟨c, rest, rfl⟩ := List.exists_cons_of_ne_nil hpattern
  have hfound : (c :: rest).isPrefixOf (c :: (rest ++ text)) :=
    List.isPrefixOf_iff_prefix.mpr (List.prefix_append (c :: rest) text)
  have hskipped : (rest ++ text).drop ((c :: rest).length - 1) = text := by simp
  rw [replaceAll, List.cons_append, replaceFrom, if_pos hfound, replaceFrom_eq, hskipped]

/-- A part of the text is kept when no occurrence begins inside it. -/
theorem replaceAll_append {before : List Char}
    (hbefore : ∀ i < before.length, ¬ pattern <+: (before ++ text).drop i) :
    replaceAll pattern new (before ++ text) =
      (before ++ (replaceAll pattern new text).1, (replaceAll pattern new text).2) := by
  induction before with
  | nil => rfl
  | cons c before ih =>
    have hrest := ih fun i hi => hbefore (i + 1) (Nat.succ_lt_succ hi)
    have hc : ¬ pattern <+: c :: (before ++ text) := hbefore 0 (Nat.succ_pos _)
    rw [List.cons_append, replaceAll_cons hc, hrest]
    rfl

/-- Replacing the pattern, told step by step: the text before, the text after, and the number of
occurrences. -/
inductive Replaces (pattern new : List Char) : List Char → List Char → ℕ → Prop
  | nil : Replaces pattern new [] [] 0
  /-- No occurrence begins at the character. -/
  | kept {c : Char} {text text' : List Char} {count : ℕ} (hc : ¬ pattern <+: c :: text)
      (hrest : Replaces pattern new text text' count) :
    Replaces pattern new (c :: text) (c :: text') count
  | replaced {text text' : List Char} {count : ℕ} (hrest : Replaces pattern new text text' count) :
    Replaces pattern new (pattern ++ text) (new ++ text') (count + 1)

/-- All occurrences of a pattern are replaced in this way. -/
theorem replaces_replaceAll (hpattern : pattern ≠ []) (new text : List Char) :
    Replaces pattern new text (replaceAll pattern new text).1 (replaceAll pattern new text).2 := by
  induction hlength : text.length using Nat.strongRecOn generalizing text with
  | ind n ih =>
    cases text with
    | nil => exact Replaces.nil
    | cons c text =>
      by_cases hc : pattern <+: c :: text
      · obtain ⟨rest, hrest⟩ := hc
        have hshorter : rest.length < n := by
          have := List.length_pos_iff.mpr hpattern
          rw [← hlength, ← hrest, List.length_append]
          omega
        rw [← hrest, replaceAll_pattern hpattern]
        exact Replaces.replaced (ih _ hshorter rest rfl)
      · rw [replaceAll_cons hc]
        exact Replaces.kept hc (ih _ (by simp [← hlength]) text rfl)

/-- When the pattern gives way to a text of its length, the length of the whole stays. -/
theorem Replaces.length_eq (hreplaces : Replaces pattern new text text' count)
    (hlength : new.length = pattern.length) : text'.length = text.length := by
  induction hreplaces with
  | nil => rfl
  | kept _ _ ih => simp [ih]
  | replaced _ ih => simp [ih, hlength]

end Rollout
