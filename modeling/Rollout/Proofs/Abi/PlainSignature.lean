import Rollout.Abi.Signature
import Mathlib.Data.List.TakeWhile

/-!
# Plain signatures

A plain signature is a name and the names of the parameter types, without blanks, parameter names
or anything behind the parameters. Such a signature is read as it is written, so the text whose
hash selects the function is the given text itself.
-/

namespace Rollout

namespace TypeText

/-- A word that is read as it is written: an identifier that is not short for another type. -/
structure IsWord (word : String) : Prop where
  isIdentifier : isIdentifier word.toList = true
  ne_uint : word ≠ "uint"
  ne_int : word ≠ "int"

/-- What may begin an identifier may stand inside one. -/
theorem isIdentifierRest_of_start {c : Char} (hstart : isIdentifierStart c = true) :
    isIdentifierRest c = true := by
  simp only [isIdentifierStart, isIdentifierRest, Char.isAlphanum, Bool.or_eq_true] at hstart ⊢
  exact hstart.imp_left (Or.imp_left Or.inl)

/-- No character of an identifier is a blank. -/
theorem isBlank_of_isIdentifierRest {c : Char} (hrest : isIdentifierRest c = true) :
    isBlank c = false := by
  rw [isIdentifierRest, Bool.or_eq_true, Bool.or_eq_true, beq_iff_eq, beq_iff_eq] at hrest
  rcases hrest with (hrest | rfl) | rfl
  · have hrange := range_of_isAlphanum hrest
    simp [isBlank]
    omega
  · rfl
  · rfl

/-- An identifier has a first character, and all others may stand behind it. -/
theorem exists_cons_of_isIdentifier {name : List Char} (hname : isIdentifier name = true) :
    ∃ c others, name = c :: others ∧ isIdentifierStart c = true ∧
      ∀ other ∈ others, isIdentifierRest other = true := by
  cases name with
  | nil => cases hname
  | cons c others =>
    rw [isIdentifier, Bool.and_eq_true, List.all_eq_true] at hname
    exact ⟨c, others, rfl, hname.1, hname.2⟩

/-- An identifier is read up to the first character that cannot belong to it. -/
theorem readIdentifier?_append {name : List Char} (hname : isIdentifier name = true) {c : Char}
    (hc : isIdentifierRest c = false) (rest : List Char) :
    readIdentifier? (name ++ c :: rest) = some (name, c :: rest) := by
  obtain ⟨first, others, rfl, hfirst, hothers⟩ := exists_cons_of_isIdentifier hname
  rw [List.cons_append, readIdentifier?, if_pos hfirst, List.takeWhile_append_of_pos hothers,
    List.dropWhile_append_of_pos hothers, List.takeWhile_cons_of_neg (by simp [hc]),
    List.dropWhile_cons_of_neg (by simp [hc]), List.append_nil]

/-- A word is read up to a character that neither belongs to it nor qualifies it. -/
theorem readName?_append {word : String} (hword : IsWord word) {c : Char}
    (hc : isIdentifierRest c = false) (hpoint : c ≠ '.') (rest : List Char) :
    readName? (word.toList ++ c :: rest) = some (word, c :: rest) := by
  simp [readName?, readIdentifier?_append hword.isIdentifier hc, hpoint, hword.ne_uint,
    hword.ne_int]

/-- An identifier before anything but an opening bracket does not begin a tuple. -/
theorem tupleItems?_append {name : List Char} (hname : isIdentifier name = true) {c : Char}
    (hc : isIdentifierRest c = false) (hopen : c ≠ '(') (rest : List Char) :
    tupleItems? (name ++ c :: rest) = none := by
  have hread := readIdentifier?_append hname hc rest
  unfold tupleItems?
  split
  · rename_i text htext
    rw [htext] at hread
    cases hread
  · rename_i text htext
    have htuple : readIdentifier? ('t' :: 'u' :: 'p' :: 'l' :: 'e' :: '(' :: text) =
        some (['t', 'u', 'p', 'l', 'e'], '(' :: text) := rfl
    rw [htext, htuple, Option.some.injEq, Prod.mk.injEq, List.cons.injEq] at hread
    exact absurd hread.2.1.symm hopen
  · rfl

/-- A word before a comma or a closing bracket is a type without sizes. -/
theorem read?_append {word : String} (hword : IsWord word) {c : Char} (hc : c = ',' ∨ c = ')')
    (rest : List Char) (levels : Nat) :
    read? levels (word.toList ++ c :: rest) = some (.named word [], c :: rest) := by
  have hend : isIdentifierRest c = false := by rcases hc with rfl | rfl <;> rfl
  have hpoint : c ≠ '.' := by rcases hc with rfl | rfl <;> decide
  have hopen : c ≠ '(' := by rcases hc with rfl | rfl <;> decide
  have hsizes : readSizes (c :: rest).length (c :: rest) = ([], c :: rest) := by
    rcases hc with rfl | rfl <;> rfl
  unfold read?
  simp only [tupleItems?_append hword.isIdentifier hend hopen, readNamed?,
    readName?_append hword hend hpoint, Option.map_some, hsizes]

end TypeText

/-- There is no blank to skip before an identifier. -/
theorem skipInlineBlanks_append {name : List Char} (hname : TypeText.isIdentifier name = true)
    (rest : List Char) : skipInlineBlanks (name ++ rest) = name ++ rest := by
  obtain ⟨c, others, rfl, hc, -⟩ := TypeText.exists_cons_of_isIdentifier hname
  have hblank := TypeText.isBlank_of_isIdentifierRest (TypeText.isIdentifierRest_of_start hc)
  refine List.dropWhile_cons_of_neg fun hinline => ?_
  rw [isInlineBlank, Bool.or_eq_true, beq_iff_eq, beq_iff_eq] at hinline
  rcases hinline with rfl | rfl <;> cases hblank

/-- A list does not end where an identifier stands. -/
theorem closing?_append {name : List Char} (hname : TypeText.isIdentifier name = true)
    (rest : List Char) : closing? ')' (name ++ rest) = none := by
  rw [closing?, skipInlineBlanks_append hname]
  obtain ⟨c, others, rfl, hc, -⟩ := TypeText.exists_cons_of_isIdentifier hname
  refine if_neg ?_
  rintro rfl
  cases hc

section Words

/-- The text of a list of words begins with the first word. -/
theorem exists_intercalate_eq_append (word : String) (words : List String) (rest : List Char) :
    ∃ behind, [','].intercalate ((word :: words).map String.toList) ++ rest =
      word.toList ++ behind := by
  cases words <;> simp [List.intercalate_cons_cons]

variable {α : Type} {read : TextReader α} {value : String → α}

/-- Words between commas are read one by one up to the closing bracket, if each of them is read up
to the comma or the bracket behind it. -/
theorem readItems_words (hread : ∀ word c rest, TypeText.IsWord word → c = ',' ∨ c = ')' →
      read (word.toList ++ c :: rest) = some (value word, c :: rest))
    {word : String} {words : List String} (hword : TypeText.IsWord word)
    (hwords : ∀ word ∈ words, TypeText.IsWord word) {fuel : Nat} (hfuel : words.length < fuel)
    (rest : List Char) :
    readItems ')' read fuel ([','].intercalate ((word :: words).map String.toList) ++ ')' :: rest) =
      some ((word :: words).map value, rest) := by
  induction words generalizing word fuel with
  | nil =>
    obtain ⟨fuel, rfl⟩ := Nat.exists_eq_succ_of_ne_zero (Nat.ne_zero_of_lt hfuel)
    rw [List.map_singleton, List.intercalate_singleton, readItems,
      hread word ')' rest hword (Or.inr rfl)]
    rfl
  | cons second words ih =>
    obtain ⟨fuel, rfl⟩ := Nat.exists_eq_succ_of_ne_zero (Nat.ne_zero_of_lt hfuel)
    obtain ⟨hsecond, hlater⟩ := List.forall_mem_cons.mp hwords
    have hitems := ih hsecond hlater (Nat.lt_of_succ_lt_succ hfuel)
    obtain ⟨behind, hbehind⟩ := exists_intercalate_eq_append second words (')' :: rest)
    rw [List.map_cons, List.map_cons, List.intercalate_cons_cons, ← List.map_cons,
      List.append_assoc, List.append_assoc, List.singleton_append, readItems,
      hread word ',' _ hword (Or.inl rfl)]
    simp only [Option.bind_eq_bind, Option.bind_some]
    rw [hbehind, closing?_append hsecond.isIdentifier,
      skipInlineBlanks_append hsecond.isIdentifier, ← hbehind, hitems]
    rfl

/-- A list has at most one word more than its text has characters. -/
theorem length_le_length_intercalate (words : List String) :
    words.length ≤ ([','].intercalate (words.map String.toList)).length + 1 := by
  induction words with
  | nil => exact Nat.zero_le _
  | cons word words ih =>
    cases words with
    | nil => simp
    | cons second words =>
      rw [List.map_cons, List.map_cons, List.intercalate_cons_cons, ← List.map_cons,
        List.length_append, List.length_append, List.length_singleton, List.length_cons]
      omega

/-- Words between commas are read back from a list in brackets. -/
theorem readBracketed_words (hread : ∀ word c rest, TypeText.IsWord word → c = ',' ∨ c = ')' →
      read (word.toList ++ c :: rest) = some (value word, c :: rest))
    {words : List String} (hwords : ∀ word ∈ words, TypeText.IsWord word) (rest : List Char) :
    readBracketed ')' read ([','].intercalate (words.map String.toList) ++ ')' :: rest) =
      some (words.map value, rest) := by
  cases words with
  | nil => rfl
  | cons word words =>
    obtain ⟨hword, hlater⟩ := List.forall_mem_cons.mp hwords
    obtain ⟨behind, hbehind⟩ := exists_intercalate_eq_append word words (')' :: rest)
    rw [readBracketed, hbehind, closing?_append hword.isIdentifier,
      skipInlineBlanks_append hword.isIdentifier, ← hbehind]
    refine readItems_words hread hword hlater ?_ rest
    have hlength := length_le_length_intercalate (word :: words)
    rw [List.length_cons] at hlength
    rw [List.length_append]
    omega

end Words

/-- A nameless parameter whose type is a single word. -/
def Parameter.plain (type : String) : Parameter :=
  ⟨type, "", []⟩

namespace Signature

/-- The signature of a name and of the words for the types of the parameters. -/
def plain (name : String) (types : List String) : Signature where
  name
  inputs := types.map Parameter.plain
  outputs := []
  mutability := .nonpayable

/-- A type before a comma or a closing bracket is a nameless parameter. -/
theorem readParameter?_append (levels : Nat) (type : String) (c : Char) (rest : List Char)
    (htype : TypeText.IsWord type) (hc : c = ',' ∨ c = ')') :
    readParameter? levels (type.toList ++ c :: rest) = some (.plain type, c :: rest) := by
  have hname : readParameterName (c :: rest) = ("", c :: rest) := by
    rcases hc with rfl | rfl <;> rfl
  have hplain : Parameter.ofTypeText "" (.named type []) = .plain type := by
    have hsizes : TypeText.sizesText [] = "" := rfl
    rw [Parameter.ofTypeText, hsizes, String.append_empty, Parameter.plain]
  simp only [readParameter?, TypeText.read?_append htype hc, Option.map_some, hname, hplain]

/-- A word before an opening bracket does not introduce a signature. -/
theorem dropIntroduction_append {name : List Char} (hname : TypeText.isIdentifier name = true)
    (rest : List Char) : dropIntroduction (name ++ '(' :: rest) = name ++ '(' :: rest := by
  unfold dropIntroduction
  split
  · rename_i c behind hskip
    have hread := TypeText.readIdentifier?_append hname (c := '(') rfl rest
    refine if_neg fun hblank => ?_
    have hc : TypeText.isIdentifierRest c = false := by
      by_contra hrest
      cases hblank.symm.trans (TypeText.isBlank_of_isIdentifierRest (eq_true_of_ne_false hrest))
    have htext : name ++ '(' :: rest = "function".toList ++ c :: behind := by
      rw [skipWord?, Option.ite_none_right_eq_some, Option.some.injEq] at hskip
      obtain ⟨hbegins, hdrop⟩ := hskip
      obtain ⟨behind', hbehind'⟩ := List.isPrefixOf_iff_prefix.mp hbegins
      rw [← hbehind'] at hdrop ⊢
      rw [← hdrop]
      rfl
    rw [htext, TypeText.readIdentifier?_append rfl hc] at hread
    obtain ⟨-, hopen⟩ := Prod.mk.inj (Option.some.inj hread)
    obtain ⟨rfl, -⟩ := List.cons.inj hopen
    cases hblank
  · rfl

/-- The text of a plain signature. -/
theorem toList_canonical_plain (name : String) (types : List String) :
    (plain name types).canonical.toList =
      name.toList ++ '(' :: ([','].intercalate (types.map String.toList) ++ [')']) := by
  have htypes : (plain name types).inputs.map Parameter.typeText = types := by
    rw [plain, List.map_map]
    exact (List.map_congr_left fun type _ => rfl).trans types.map_id
  rw [canonical, htypes]
  simp [plain, String.toList_intercalate]

/-- A plain signature is read as it is written. -/
theorem parse?_canonical_plain {name : String} {types : List String}
    (hname : TypeText.IsWord name) (htypes : ∀ type ∈ types, TypeText.IsWord type) :
    parse? (plain name types).canonical = some (plain name types) := by
  have hinputs : readParameters? ('(' :: ([','].intercalate (types.map String.toList) ++ [')'])) =
      some (types.map Parameter.plain, []) :=
    readBracketed_words (readParameter?_append 78) htypes []
  have hblank : skipInlineBlanks ('(' :: ([','].intercalate (types.map String.toList) ++ [')'])) =
      '(' :: ([','].intercalate (types.map String.toList) ++ [')']) := rfl
  have hvisibility : readOneOf visibilities [] = (none, []) := rfl
  have hmutability : readOneOf mutabilities [] = (none, []) := rfl
  have hresults : readResults [] = ([], []) := rfl
  have hend : skipInlineBlanks [] = [] := rfl
  rw [parse?, toList_canonical_plain, dropIntroduction_append hname.isIdentifier,
    TypeText.readName?_append hname rfl (by decide)]
  simp only [Option.bind_eq_bind, Option.bind_some, hblank, hinputs, hvisibility, hmutability,
    hresults, hend]
  rfl

end Signature

end Rollout
