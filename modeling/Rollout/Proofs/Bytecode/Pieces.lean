import Mathlib.Data.List.Basic
import Rollout.Proofs.Bytecode.Replacement

/-!
# Code in pieces

Code that is not linked yet is a sequence of pieces, some of which are placeholders. Nothing
separates the pieces, so a placeholder could also occur across their bounds. Where it does not,
replacing it fills exactly the pieces that it is, and the addresses that are filled in do not let
any other placeholder occur anew.
-/

namespace Rollout

/-- The text consists of hexadecimal digits. -/
def IsDigits (text : List Char) : Prop :=
  ∀ c ∈ text, Hex.isDigit c

/-- The pattern occurs in the text of the pieces only where one of them is the pattern. -/
def OccursAsPiece (pattern : List Char) (pieces : List (List Char)) : Prop :=
  ∀ before after, pieces.flatten = before ++ (pattern ++ after) →
    ∃ front back, pieces = front ++ pattern :: back ∧ front.flatten = before

/-- A pattern of the length of an address with an underscore at either end. -/
structure IsFramed (pattern : List Char) : Prop where
  length_eq : pattern.length = placeholderLength
  head?_eq : pattern.head? = some '_'
  getLast?_eq : pattern.getLast? = some '_'

/-- The piece, or new text in its place if it is one of the patterns. -/
def fill (patterns : List (List Char)) (new piece : List Char) : List Char :=
  if piece ∈ patterns then new else piece

variable {pattern new piece : List Char} {patterns pieces : List (List Char)}

/-- An underscore is no digit. -/
theorem IsDigits.ne_underscore {digits : List Char} (hdigits : IsDigits digits) {c : Char}
    (hc : c ∈ digits) : c ≠ '_' := by
  rintro rfl
  exact absurd (hdigits '_' hc) (by decide)

/-- The digits of a byte string. -/
theorem isDigits_hex {n : ℕ} (x : FixedBytes n) : IsDigits x.hex := by
  intro c hc
  obtain ⟨m, hm, rfl⟩ := Hex.exists_digitChar_of_mem_encode hc
  rw [Hex.isDigit, Hex.digit?_digitChar hm]
  rfl

/-- A pattern with underscores holds a character. -/
theorem IsFramed.ne_nil (hpattern : IsFramed pattern) : pattern ≠ [] := by
  rintro rfl
  cases hpattern.head?_eq

/-- A pattern with underscores does not consist of digits. -/
theorem IsFramed.not_isDigits (hpattern : IsFramed pattern) : ¬ IsDigits pattern := fun hdigits =>
  hdigits.ne_underscore (List.mem_of_head? hpattern.head?_eq) rfl

/-- Placeholders have underscores at their ends. -/
theorem isFramed_of_mem_placeholders {library : String} {source : Option String} :
    ∀ pattern ∈ Template.placeholders library source, IsFramed pattern := by
  intro pattern hpattern
  rcases List.mem_cons.mp hpattern with rfl | hpattern
  · refine ⟨length_legacyPlaceholder _, rfl, ?_⟩
    have hname := List.length_take_le (placeholderLength - 4) library.toList
    have hfilling : placeholderLength - 2 - (library.toList.take (placeholderLength - 4)).length ≠
        0 := by
      simp only [placeholderLength] at hname ⊢
      omega
    simp only [legacyPlaceholder]
    rw [List.getLast?_append, List.getLast?_replicate, if_neg hfilling, Option.some_or]
  · obtain ⟨source, -, rfl⟩ : ∃ s, source = some s ∧
        hashedPlaceholder (qualifiedName s library) = pattern := by simpa using hpattern
    refine ⟨length_hashedPlaceholder _, rfl, ?_⟩
    rw [hashedPlaceholder, List.getLast?_append]
    rfl

namespace OccursAsPiece

/-- What occurs as a piece only does so behind the first piece. -/
theorem tail (hpattern : pattern ≠ []) (hoccurs : OccursAsPiece pattern (piece :: pieces)) :
    OccursAsPiece pattern pieces := by
  intro before after heq
  have hwhole : (piece :: pieces).flatten = piece ++ before ++ (pattern ++ after) := by
    rw [List.flatten_cons, heq, List.append_assoc]
  obtain ⟨front, back, hpieces, hfront⟩ := hoccurs _ _ hwhole
  cases front with
  | nil =>
    obtain ⟨rfl, -⟩ := List.append_eq_nil_iff.mp hfront.symm
    exact absurd (List.cons.inj hpieces).1.symm hpattern
  | cons x front =>
    obtain ⟨rfl, rfl⟩ := List.cons.inj hpieces
    exact ⟨front, back, rfl, List.append_cancel_left hfront⟩

/-- An occurrence that begins inside the first piece is the first piece. -/
theorem eq_of_prefix_drop (hoccurs : OccursAsPiece pattern (piece :: pieces)) {i : ℕ}
    (hi : i < piece.length) (hbegins : pattern <+: (piece ++ pieces.flatten).drop i) :
    piece = pattern ∧ i = 0 := by
  obtain ⟨after, hafter⟩ := hbegins
  have hwhole : (piece :: pieces).flatten =
      (piece ++ pieces.flatten).take i ++ (pattern ++ after) := by
    rw [hafter, List.take_append_drop, List.flatten_cons]
  obtain ⟨front, back, hpieces, hfront⟩ := hoccurs _ _ hwhole
  have hlength : front.flatten.length = i := by
    rw [hfront, List.length_take, List.length_append]
    omega
  cases front with
  | nil => exact ⟨(List.cons.inj hpieces).1, hlength.symm⟩
  | cons x front =>
    obtain ⟨rfl, -⟩ := List.cons.inj hpieces
    rw [List.flatten_cons, List.length_append] at hlength
    omega

/-- Replacing a pattern that occurs as a piece only fills the pieces that it is. -/
theorem replaceAll_flatten (hpattern : pattern ≠ []) (hoccurs : OccursAsPiece pattern pieces)
    (new : List Char) : replaceAll pattern new pieces.flatten =
      ((pieces.map (fill [pattern] new)).flatten, pieces.count pattern) := by
  induction pieces with
  | nil => rfl
  | cons piece pieces ih =>
    have hrest := ih (hoccurs.tail hpattern)
    rw [List.flatten_cons, List.map_cons, List.flatten_cons, List.count_cons]
    by_cases hsame : piece = pattern
    · rw [hsame, replaceAll_pattern hpattern, hrest]
      simp [fill]
    · have hkept : ∀ i < piece.length, ¬ pattern <+: (piece ++ pieces.flatten).drop i :=
        fun i hi hbegins => hsame (hoccurs.eq_of_prefix_drop hi hbegins).1
      rw [replaceAll_append hkept, hrest]
      simp [fill, hsame]

end OccursAsPiece

section

variable (hnew : IsDigits new) (hlength : new.length = placeholderLength)

include hnew hlength

/-- A text with an underscore at its end that does not reach far into filled pieces stands in front
of them only if it stands in front of the pieces. -/
theorem prefix_of_prefix_map_fill {front text : List Char} (hlast : text.getLast? = some '_')
    (hshort : text.length < front.length + placeholderLength)
    (hbegins : text <+: front ++ (pieces.map (fill patterns new)).flatten) :
    text <+: front ++ pieces.flatten := by
  induction pieces generalizing front with
  | nil => exact hbegins
  | cons piece pieces ih =>
    rw [List.map_cons, List.flatten_cons, ← List.append_assoc] at hbegins
    by_cases hmem : piece ∈ patterns
    · rw [fill, if_pos hmem] at hbegins
      have hpart : text <+: front ++ new :=
        List.prefix_of_prefix_length_le hbegins (List.prefix_append _ _) (by simp; omega)
      obtain ⟨init, rfl⟩ := List.getLast?_eq_some_iff.mp hlast
      obtain ⟨rest, hrest⟩ := hpart
      rw [List.append_assoc] at hrest
      rcases List.append_eq_append_iff.mp hrest with ⟨more, rfl, hmore⟩ | ⟨more, rfl, hmore⟩
      · cases more with
        | nil =>
          exact absurd rfl (hnew.ne_underscore (by rw [← List.nil_append new, ← hmore]; simp))
        | cons c more =>
          obtain rfl := (List.cons.inj hmore).1
          exact ⟨more ++ (piece :: pieces).flatten, by simp⟩
      · exact absurd rfl (hnew.ne_underscore (by rw [hmore]; simp))
    · rw [fill, if_neg hmem] at hbegins
      rw [List.flatten_cons, ← List.append_assoc]
      exact ih (by rw [List.length_append]; omega) hbegins

/-- Filling pieces with digits does not let a pattern occur anew. -/
theorem OccursAsPiece.map_fill (hpattern : IsFramed pattern)
    (hoccurs : OccursAsPiece pattern pieces) (patterns : List (List Char)) :
    OccursAsPiece pattern (pieces.map (fill patterns new)) := by
  induction pieces with
  | nil => exact hoccurs
  | cons piece pieces ih =>
    intro before after heq
    rw [List.map_cons, List.flatten_cons] at heq
    have hbehind (more : List Char) (hbefore : before = fill patterns new piece ++ more)
        (hmore : (pieces.map (fill patterns new)).flatten = more ++ (pattern ++ after)) :
        ∃ front back, (piece :: pieces).map (fill patterns new) = front ++ pattern :: back ∧
          front.flatten = before := by
      obtain ⟨front, back, hpieces, rfl⟩ := ih (hoccurs.tail hpattern.ne_nil) _ _ hmore
      exact ⟨fill patterns new piece :: front, back, by simp [hpieces], hbefore.symm⟩
    rcases List.append_eq_append_iff.mp heq with ⟨more, hbefore, hmore⟩ | ⟨more, hinside, hrest⟩
    · exact hbehind more hbefore hmore
    · cases more with
      | nil => exact hbehind [] (by simpa using hinside.symm) hrest.symm
      | cons c more =>
        have hc : c = '_' := by
          have hhead := hpattern.head?_eq
          rw [← List.head?_append_of_ne_nil _ hpattern.ne_nil, hrest] at hhead
          exact Option.some.inj hhead
        have hmem : piece ∉ patterns := by
          intro hmem
          rw [fill, if_pos hmem] at hinside
          exact hnew.ne_underscore (by rw [hinside]; simp) hc
        have hfill : fill patterns new piece = piece := if_neg hmem
        rw [hfill] at hinside
        have hbegins : pattern <+: (piece ++ pieces.flatten).drop before.length := by
          have hshort : pattern.length < (c :: more).length + placeholderLength := by
            rw [hpattern.length_eq, List.length_cons]
            omega
          rw [hinside, List.append_assoc, List.drop_left]
          exact prefix_of_prefix_map_fill hnew hlength hpattern.getLast?_eq hshort
            ⟨after, hrest⟩
        have hlt : before.length < piece.length := by
          rw [hinside, List.length_append, List.length_cons]
          omega
        obtain ⟨hpiece, hnil⟩ := hoccurs.eq_of_prefix_drop hlt hbegins
        rw [List.length_eq_zero_iff] at hnil
        exact ⟨[], pieces.map (fill patterns new), by rw [List.map_cons, hfill, hpiece]; rfl,
          hnil.symm⟩

end

/-- Filling for one pattern and then for others is filling for all of them. -/
theorem fill_comp_fill (hnew : new ∉ patterns) :
    fill patterns new ∘ fill [pattern] new = fill (pattern :: patterns) new := by
  funext x
  by_cases hsame : x = pattern
  · simp [fill, hsame, hnew]
  · simp [fill, hsame]

/-- The pieces that are one pattern, and then those that are one of the others, are counted. -/
theorem count_add_countP_map_fill (hnew : new ∉ patterns) :
    pieces.count pattern + (pieces.map (fill [pattern] new)).countP (· ∈ patterns) =
      pieces.countP (· ∈ pattern :: patterns) := by
  induction pieces with
  | nil => rfl
  | cons x pieces ih =>
    rw [List.count_cons, List.map_cons, List.countP_cons, List.countP_cons, ← ih]
    by_cases hsame : x = pattern
    · have hx : fill [pattern] new x = new := if_pos (by simp [hsame])
      simp only [hx, hnew, decide_false, Bool.false_eq_true, if_false]
      simp only [hsame, beq_self_eq_true, List.mem_cons, true_or, decide_true, if_true]
      omega
    · have hx : fill [pattern] new x = x := if_neg (by simpa using hsame)
      simp only [hx, hsame, beq_iff_eq, List.mem_cons, false_or, if_false]
      omega

/-- Replacing patterns one after the other by digits fills all pieces that they are, if they occur
as pieces only. -/
theorem replacePatterns_flatten (hnew : IsDigits new) (hlength : new.length = placeholderLength)
    (hframed : ∀ pattern ∈ patterns, IsFramed pattern)
    (hoccurs : ∀ pattern ∈ patterns, OccursAsPiece pattern pieces) :
    Template.replacePatterns new patterns pieces.flatten =
      ((pieces.map (fill patterns new)).flatten, pieces.countP (· ∈ patterns)) := by
  induction patterns generalizing pieces with
  | nil =>
    have hfill : fill [] new = id := funext fun x => if_neg List.not_mem_nil
    simp [Template.replacePatterns, hfill]
  | cons pattern patterns ih =>
    obtain ⟨hpattern, hframed⟩ := List.forall_mem_cons.mp hframed
    obtain ⟨hfirst, hoccurs⟩ := List.forall_mem_cons.mp hoccurs
    have hlater : ∀ q ∈ patterns, OccursAsPiece q (pieces.map (fill [pattern] new)) :=
      fun q hq => (hoccurs q hq).map_fill hnew hlength (hframed q hq) [pattern]
    have hnot : new ∉ patterns := fun hmem => (hframed new hmem).not_isDigits hnew
    rw [Template.replacePatterns, hfirst.replaceAll_flatten hpattern.ne_nil]
    simp only [ih hframed hlater, List.map_map, fill_comp_fill hnot, count_add_countP_map_fill hnot]

/-- Linking a library in a template without offsets fills the pieces that are its placeholders, if
these occur as pieces only. -/
theorem Template.link_flatten {library : String} {source : Option String}
    (hoccurs : ∀ pattern ∈ placeholders library source, OccursAsPiece pattern pieces)
    (unit : String) (address : Address) :
    link ⟨pieces.flatten, []⟩ unit library source address =
      (.ok (pieces.countP (· ∈ placeholders library source)),
        ⟨(pieces.map (fill (placeholders library source) address.hex)).flatten, []⟩) := by
  have hlength : address.hex.length = placeholderLength := FixedBytes.length_hex address
  simp only [link, offsetsOf, List.find?_nil, Option.map_none, Option.getD_none, writeOffsets,
    replacePatterns_flatten (isDigits_hex address) hlength isFramed_of_mem_placeholders hoccurs,
    List.length_nil, Nat.zero_add]

end Rollout
