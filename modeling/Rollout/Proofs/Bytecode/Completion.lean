import Mathlib.Algebra.Group.Nat.Even
import Rollout.Proofs.Bytecode.Offsets
import Rollout.Proofs.Address

/-!
# Completed code

Code is taken from a template only when its text is nothing but pairs of hexadecimal digits. A text
in which two underscores stand in a row is refused for them before anything else is looked at. They
are searched for among the bytes of the text, and since no byte of any other character is an
underscore, they are found where a character begins and the text can be cut.
-/

namespace Rollout

/-- The pattern occurs at a position of the text and at none before it. -/
structure FirstAt {α : Type} (pattern text : List α) (i : ℕ) : Prop where
  occurs : pattern <+: text.drop i
  none_before : ∀ j < i, ¬ pattern <+: text.drop j

section Occurrences

variable {α : Type} {pattern text : List α} {a : α} {i j : ℕ}

/-- A pattern that begins the text occurs first there. -/
theorem firstAt_zero : FirstAt pattern text 0 ↔ pattern <+: text :=
  ⟨fun h => h.occurs, fun h => ⟨h, fun _ hj => absurd hj (Nat.not_lt_zero _)⟩⟩

/-- A pattern that does not begin the text occurs first in the rest of it. -/
theorem firstAt_succ :
    FirstAt pattern (a :: text) (i + 1) ↔ ¬ pattern <+: a :: text ∧ FirstAt pattern text i := by
  constructor
  · intro h
    exact ⟨h.none_before 0 (Nat.succ_pos i), h.occurs,
      fun j hj => h.none_before (j + 1) (Nat.succ_lt_succ hj)⟩
  · rintro ⟨hbegins, h⟩
    refine ⟨h.occurs, fun j hj => ?_⟩
    cases j with
    | zero => exact hbegins
    | succ j => exact h.none_before j (Nat.lt_of_succ_lt_succ hj)

/-- There is only one position at which a pattern occurs first. -/
theorem FirstAt.unique (hi : FirstAt pattern text i) (hj : FirstAt pattern text j) : i = j := by
  rcases Nat.lt_trichotomy i j with hlt | heq | hlt
  · exact absurd hi.occurs (hj.none_before i hlt)
  · exact heq
  · exact absurd hj.occurs (hi.none_before j hlt)

end Occurrences

section Placeholders

variable {text placeholder : List Char} {c : Char}

/-- A text whose first two characters are not both underscores does not begin with them. -/
theorem not_prefix_of_forall (hnot : ∀ rest, c = '_' → text = '_' :: rest → False) :
    ¬ ['_', '_'] <+: c :: text := by
  rintro ⟨rest, hrest⟩
  obtain ⟨rfl, rfl⟩ := List.cons.inj hrest
  exact hnot rest rfl rfl

/-- The placeholder that is reported is cut off where two underscores first stand in a row. -/
theorem firstPlaceholder?_eq_some : firstPlaceholder? text = some placeholder ↔
    ∃ before rest, text = before ++ rest ∧ FirstAt ['_', '_'] text before.length ∧
      placeholder = rest.take placeholderLength := by
  induction text using firstPlaceholder?.induct with
  | case1 text =>
    have hbegins : FirstAt ['_', '_'] ('_' :: '_' :: text) 0 := firstAt_zero.mpr ⟨text, rfl⟩
    rw [firstPlaceholder?, Option.some.injEq]
    constructor
    · rintro rfl
      exact ⟨[], '_' :: '_' :: text, rfl, hbegins, rfl⟩
    · rintro ⟨before, rest, htext, hfirst, rfl⟩
      obtain rfl := List.eq_nil_of_length_eq_zero (hfirst.unique hbegins)
      rw [htext, List.nil_append]
  | case2 c text hnot ih =>
    have hbegins := not_prefix_of_forall hnot
    rw [firstPlaceholder?, ih]
    · constructor
      · rintro ⟨before, rest, rfl, hfirst, hplaceholder⟩
        exact ⟨c :: before, rest, rfl, firstAt_succ.mpr ⟨hbegins, hfirst⟩, hplaceholder⟩
      · rintro ⟨before, rest, htext, hfirst, hplaceholder⟩
        cases before with
        | nil => exact absurd (firstAt_zero.mp hfirst) hbegins
        | cons d before =>
          obtain ⟨rfl, hrest⟩ := List.cons.inj htext
          exact ⟨before, rest, hrest, (firstAt_succ.mp hfirst).2, hplaceholder⟩
    · exact hnot
  | case3 =>
    refine iff_of_false nofun ?_
    rintro ⟨before, rest, -, hfirst, -⟩
    simpa using hfirst.occurs

/-- No placeholder is reported if no two underscores stand in a row. -/
theorem firstPlaceholder?_eq_none :
    firstPlaceholder? text = none ↔ ¬ ['_', '_'] <:+: text := by
  induction text using firstPlaceholder?.induct with
  | case1 text => exact iff_of_false nofun (not_not_intro ⟨[], text, rfl⟩)
  | case2 c text hnot ih =>
    have hbegins := not_prefix_of_forall hnot
    rw [List.infix_cons_iff, or_iff_right hbegins, ← ih, firstPlaceholder?]
    exact hnot
  | case3 => exact iff_of_true rfl (by simp)

end Placeholders

section Bytes

variable {text before rest : List Char} {c : Char} {i : ℕ}

/-- The bytes of a character of more than one byte are at least 128. -/
theorem le_of_mem_utf8EncodeChar (hlarge : ¬ c.toNat ≤ 127) :
    ∀ byte ∈ String.utf8EncodeChar c, 128 ≤ byte.toNat := by
  have hcode : c.val.toNat = c.toNat := rfl
  simp only [String.utf8EncodeChar, hcode, if_neg hlarge]
  split_ifs <;>
    simp only [List.mem_cons, List.not_mem_nil, or_false, forall_eq_or_imp, forall_eq,
      UInt8.toNat_ofNat'] <;>
    omega

/-- The byte of an underscore belongs to an underscore. -/
theorem eq_underscore_of_mem (hbyte : 95 ∈ String.utf8EncodeChar c) : c = '_' := by
  have hsmall : c.toNat ≤ 127 := by
    by_contra hlarge
    have hle := le_of_mem_utf8EncodeChar hlarge 95 hbyte
    exact absurd hle (by decide)
  have hsingle : String.utf8EncodeChar c = [UInt8.ofNat c.toNat] := if_pos hsmall
  rw [hsingle, List.mem_singleton] at hbyte
  have hcode : (95 : UInt8).toNat = (UInt8.ofNat c.toNat).toNat := congrArg UInt8.toNat hbyte
  rw [UInt8.toNat_ofNat_of_lt' (show c.toNat < 256 by omega)] at hcode
  exact Char.toNat_inj.mp hcode.symm

/-- A text that begins with the byte of an underscore begins with an underscore. -/
theorem exists_eq_cons_of_prefix (hbegins : [95] <+: utf8 text) : ∃ rest, text = '_' :: rest := by
  cases text with
  | nil => simp [utf8] at hbegins
  | cons c rest =>
    have hlong : [(95 : UInt8)].length ≤ (String.utf8EncodeChar c).length := by
      rw [String.length_utf8EncodeChar]
      exact c.utf8Size_pos
    rw [utf8_cons] at hbegins
    have hfirst := List.prefix_of_prefix_length_le hbegins (List.prefix_append _ _) hlong
    rw [eq_underscore_of_mem (hfirst.subset List.mem_cons_self)]
    exact ⟨rest, rfl⟩

/-- A text can be cut behind the bytes of its first characters. -/
theorem splitAtByte?_utf8 (before rest : List Char) :
    splitAtByte? (utf8 before).length (before ++ rest) = some (before, rest) := by
  induction before with
  | nil => rw [utf8, List.flatMap_nil, List.length_nil, List.nil_append, splitAtByte?]
  | cons c before ih =>
    have hbytes : (utf8 (c :: before)).length = c.utf8Size + (utf8 before).length := by
      rw [utf8_cons, List.length_append, String.length_utf8EncodeChar]
    obtain ⟨n, hn⟩ : ∃ n, c.utf8Size + (utf8 before).length = n + 1 :=
      Nat.exists_eq_succ_of_ne_zero (by have := c.utf8Size_pos; omega)
    have hrest : n + 1 - c.utf8Size = (utf8 before).length := by omega
    rw [hbytes, hn, List.cons_append, splitAtByte?, if_pos (by omega), hrest, ih]
    rfl

/-- Where two bytes of underscores stand in a row, two underscores do. -/
theorem exists_split_of_prefix_drop (hoccurs : utf8 ['_', '_'] <+: (utf8 text).drop i) :
    ∃ before rest, text = before ++ rest ∧ i = (utf8 before).length ∧ ['_', '_'] <+: rest := by
  have hmark : utf8 ['_', '_'] = [95, 95] := rfl
  rw [hmark] at hoccurs
  induction text generalizing i with
  | nil => simp [utf8] at hoccurs
  | cons c text ih =>
    rw [utf8_cons] at hoccurs
    by_cases hinside : i < (String.utf8EncodeChar c).length
    · rw [List.drop_append_of_le_length hinside.le, List.drop_eq_getElem_cons hinside,
        List.cons_append, List.cons_prefix_cons] at hoccurs
      obtain ⟨hfirst, hsecond⟩ := hoccurs
      obtain rfl := eq_underscore_of_mem (hfirst ▸ List.getElem_mem hinside)
      obtain rfl : i = 0 := Nat.lt_one_iff.mp hinside
      obtain ⟨rest, rfl⟩ := exists_eq_cons_of_prefix hsecond
      exact ⟨[], '_' :: '_' :: rest, rfl, rfl, rest, rfl⟩
    · obtain ⟨k, rfl⟩ := Nat.exists_eq_add_of_le (Nat.le_of_not_lt hinside)
      rw [List.drop_append, List.drop_eq_nil_of_le (Nat.le_add_right _ _), List.nil_append,
        Nat.add_sub_cancel_left] at hoccurs
      obtain ⟨before, rest, rfl, rfl, hrest⟩ := ih hoccurs
      refine ⟨c :: before, rest, rfl, ?_, hrest⟩
      rw [utf8_cons, List.length_append]

/-- Two underscores in a row are two bytes in a row. -/
theorem prefix_drop_utf8 (before : List Char) (hrest : ['_', '_'] <+: rest) :
    utf8 ['_', '_'] <+: (utf8 (before ++ rest)).drop (utf8 before).length := by
  obtain ⟨behind, rfl⟩ := hrest
  rw [utf8_append, List.drop_left, utf8_append]
  exact List.prefix_append _ _

/-- A text has no fewer bytes than characters. -/
theorem length_le_length_utf8 (text : List Char) : text.length ≤ (utf8 text).length := by
  induction text with
  | nil => exact le_rfl
  | cons c text ih =>
    have hpos := c.utf8Size_pos
    rw [utf8_cons, List.length_append, String.length_utf8EncodeChar, List.length_cons]
    omega

/-- Of two beginnings of a text the one with fewer characters has fewer bytes. -/
theorem length_utf8_lt_iff {before' : List Char} (hbefore' : before' <+: text)
    (hbefore : before <+: text) :
    (utf8 before').length < (utf8 before).length ↔ before'.length < before.length := by
  rcases List.prefix_or_prefix_of_prefix hbefore' hbefore with ⟨more, rfl⟩ | ⟨more, rfl⟩
  · have hmore := length_le_length_utf8 more
    rw [utf8_append, List.length_append, List.length_append]
    cases more with
    | nil => simp [utf8]
    | cons c more =>
      rw [List.length_cons] at hmore ⊢
      omega
  · rw [utf8_append, List.length_append, List.length_append]
    omega

/-- Two underscores in a row are found among the bytes exactly where they are found among the
characters, and the text can be cut there. -/
theorem firstAt_utf8 : FirstAt (utf8 ['_', '_']) (utf8 text) i ↔
    ∃ before rest, text = before ++ rest ∧ i = (utf8 before).length ∧
      splitAtByte? i text = some (before, rest) ∧ FirstAt ['_', '_'] text before.length := by
  constructor
  · intro hfirst
    obtain ⟨before, rest, rfl, rfl, hrest⟩ := exists_split_of_prefix_drop hfirst.occurs
    refine ⟨before, rest, rfl, rfl, splitAtByte?_utf8 before rest,
      by rwa [List.drop_left], fun j hj hoccurs => ?_⟩
    have hcut : before ++ rest = before.take j ++ (before.drop j ++ rest) := by
      rw [← List.append_assoc, List.take_append_drop]
    have hshorter : (before.take j).length < before.length := by
      rwa [List.length_take_of_le hj.le]
    have hfewer := (length_utf8_lt_iff (List.take_prefix j before) List.prefix_rfl).mpr hshorter
    refine hfirst.none_before _ hfewer ?_
    rw [List.drop_append_of_le_length hj.le] at hoccurs
    rw [hcut]
    exact prefix_drop_utf8 _ hoccurs
  · rintro ⟨before, rest, rfl, rfl, -, hfirst⟩
    have hrest : ['_', '_'] <+: rest := by
      have hoccurs := hfirst.occurs
      rwa [List.drop_left] at hoccurs
    refine ⟨prefix_drop_utf8 before hrest, fun j hj hoccurs => ?_⟩
    obtain ⟨before', rest', htext, rfl, hrest'⟩ := exists_split_of_prefix_drop hoccurs
    have hshorter : before'.length < before.length :=
      (length_utf8_lt_iff ⟨rest', htext.symm⟩ (List.prefix_append before rest)).mp hj
    refine hfirst.none_before _ hshorter ?_
    rw [htext, List.drop_left]
    exact hrest'

end Bytes

namespace Hex

variable {text : List Char} {bytes : List UInt8} {c : Char} {d : ℕ}

/-- A digit in lowercase is the one that is written for its value. -/
theorem toLower_of_digit? (h : digit? c = some d) : c.toLower = Nat.digitChar d := by
  have hall : ∀ n : Fin 128, (digit? (Char.ofNat n)).all
      fun d => (Char.ofNat n).toLower = Nat.digitChar d := by decide
  have hrange := range_of_isDigit (show isDigit c by rw [isDigit, h]; rfl)
  have hc := hall ⟨c.toNat, by omega⟩
  rw [Char.ofNat_toNat, h] at hc
  simpa using hc

/-- A digit means the same in lowercase. -/
theorem digit?_toLower (hc : isDigit c) : digit? c.toLower = digit? c := by
  obtain ⟨d, hd⟩ := Option.isSome_iff_exists.mp hc
  rw [toLower_of_digit? hd, digit?_digitChar (digit?_lt hd), hd]

/-- What is written for bytes is in lowercase. -/
theorem toLower_of_mem_encode (hc : c ∈ encode bytes) : c.toLower = c := by
  obtain ⟨n, hn, rfl⟩ := exists_digitChar_of_mem_encode hc
  exact toLower_of_digit? (digit?_digitChar hn)

/-- Digits with the same meaning differ in case only. -/
theorem map_toLower_eq {text' : List Char} (hdigits : IsDigits text)
    (hsame : text.map digit? = text'.map digit?) :
    text.map Char.toLower = text'.map Char.toLower := by
  induction text generalizing text' with
  | nil => rw [List.map_eq_nil_iff.mp hsame.symm]
  | cons c text ih =>
    obtain ⟨c', text', rfl, hc, hrest⟩ := List.map_eq_cons_iff.mp hsame.symm
    obtain ⟨hdigit, hdigits⟩ := List.forall_mem_cons.mp hdigits
    obtain ⟨d, hd⟩ := Option.isSome_iff_exists.mp hdigit
    rw [List.map_cons, List.map_cons, toLower_of_digit? hd, toLower_of_digit? (hc.trans hd),
      ih hdigits hrest.symm]

/-- Bytes are read from digits of any case, and written they are these digits in lowercase. -/
theorem decode?_eq_some_iff_toLower :
    decode? text = some bytes ↔ IsDigits text ∧ encode bytes = text.map Char.toLower := by
  rw [decode?_eq_some]
  constructor
  · intro hsame
    have hdigits : IsDigits text := by
      intro c hc
      obtain ⟨c', hc', hmeaning⟩ := List.mem_map.mp (hsame ▸ List.mem_map_of_mem hc)
      exact Option.isSome_iff_ne_none.mpr (hmeaning ▸ digit?_ne_none_of_mem_encode hc')
    refine ⟨hdigits, ?_⟩
    rw [map_toLower_eq hdigits hsame, List.map_congr_left fun c hc => toLower_of_mem_encode hc,
      List.map_id']
  · rintro ⟨hdigits, hencode⟩
    rw [hencode, List.map_map]
    exact (List.map_congr_left fun c hc => digit?_toLower (hdigits c hc)).symm

/-- Bytes can be read from pairs of digits and from nothing else. -/
theorem exists_decode?_iff :
    (∃ bytes, decode? text = some bytes) ↔ IsDigits text ∧ Even text.length := by
  constructor
  · rintro ⟨bytes, hbytes⟩
    obtain ⟨hdigits, hencode⟩ := decode?_eq_some_iff_toLower.mp hbytes
    have hlength : text.length = 2 * bytes.length := by
      rw [← length_encode, hencode, List.length_map]
    exact ⟨hdigits, hlength ▸ ⟨bytes.length, Nat.two_mul _⟩⟩
  · rintro ⟨hdigits, heven⟩
    induction text using decode?.induct with
    | case1 => exact ⟨[], rfl⟩
    | case2 c => exact absurd heven (by simp)
    | case3 high low rest ih =>
      obtain ⟨hhigh, hdigits⟩ := List.forall_mem_cons.mp hdigits
      obtain ⟨hlow, hdigits⟩ := List.forall_mem_cons.mp hdigits
      obtain ⟨h, hh⟩ := Option.isSome_iff_exists.mp hhigh
      obtain ⟨l, hl⟩ := Option.isSome_iff_exists.mp hlow
      have hrest : Even rest.length := by
        simpa [Nat.even_add_one] using heven
      obtain ⟨bytes, hbytes⟩ := ih hdigits hrest
      exact ⟨UInt8.ofNat (16 * h + l) :: bytes, by simp [decode?, hh, hl, hbytes]⟩

end Hex

/-- No two underscores stand in a row among digits. -/
theorem IsDigits.not_isInfix {text : List Char} (hdigits : IsDigits text) :
    ¬ ['_', '_'] <:+: text := by
  intro hoccurs
  exact hdigits.ne_underscore (hoccurs.subset List.mem_cons_self) rfl

namespace Template

variable {t : Template} {unit placeholder : String} {code : List UInt8}

/-- Code is taken from a template exactly if the text spells it. -/
theorem toBytes_eq_ok_iff :
    t.toBytes unit = .ok code ↔ IsDigits t.text ∧ Hex.encode code = t.text.map Char.toLower := by
  rw [← Hex.decode?_eq_some_iff_toLower]
  refine ⟨decode?_of_toBytes, fun hdecode => ?_⟩
  have hdigits := (Hex.decode?_eq_some_iff_toLower.mp hdecode).1
  have hnone := firstPlaceholder?_eq_none.mpr hdigits.not_isInfix
  simp only [toBytes, hnone, Hex.decode, hdecode, Except.mapError]

/-- There is code to be taken exactly from pairs of digits. -/
theorem exists_toBytes_eq_ok :
    (∃ code, t.toBytes unit = .ok code) ↔ IsDigits t.text ∧ Even t.text.length := by
  simp only [toBytes_eq_ok_iff, ← Hex.decode?_eq_some_iff_toLower, Hex.exists_decode?_iff]

/-- A template is refused for a placeholder when one is found. -/
theorem toBytes_eq_unlinkedPlaceholder :
    t.toBytes unit = .error (.unlinkedPlaceholder unit placeholder) ↔
      ∃ characters, firstPlaceholder? t.text = some characters ∧
        placeholder = String.ofList characters := by
  unfold toBytes
  split
  · rename_i characters hsome
    simp [hsome, eq_comm]
  · rename_i hnone
    simp [hnone, mapError_eq_error]

/-- A template is refused for a placeholder exactly if two underscores stand in a row. -/
theorem exists_toBytes_eq_unlinkedPlaceholder :
    (∃ placeholder, t.toBytes unit = .error (.unlinkedPlaceholder unit placeholder)) ↔
      ['_', '_'] <:+: t.text := by
  rw [← not_iff_not, ← firstPlaceholder?_eq_none, Option.eq_none_iff_forall_ne_some]
  simp only [toBytes_eq_unlinkedPlaceholder]
  constructor
  · rintro hnone characters hsome
    exact hnone ⟨_, characters, hsome, rfl⟩
  · rintro hnone ⟨_, characters, hsome, -⟩
    exact hnone characters hsome

/-- The placeholder that is reported begins where the two underscores are found among the bytes of
the text, and the text can be cut there. -/
theorem toBytes_eq_unlinkedPlaceholder_iff :
    t.toBytes unit = .error (.unlinkedPlaceholder unit placeholder) ↔
      ∃ i before rest, FirstAt (utf8 ['_', '_']) (utf8 t.text) i ∧ t.text = before ++ rest ∧
        splitAtByte? i t.text = some (before, rest) ∧ FirstAt ['_', '_'] t.text before.length ∧
        placeholder = String.ofList (rest.take placeholderLength) := by
  simp only [toBytes_eq_unlinkedPlaceholder, firstPlaceholder?_eq_some]
  constructor
  · rintro ⟨_, ⟨before, rest, htext, hfirst, rfl⟩, rfl⟩
    have hsplit : splitAtByte? (utf8 before).length t.text = some (before, rest) := by
      rw [htext, splitAtByte?_utf8]
    have hfound := firstAt_utf8.mpr ⟨before, rest, htext, rfl, hsplit, hfirst⟩
    exact ⟨_, before, rest, hfound, htext, hsplit, hfirst, rfl⟩
  · rintro ⟨i, before, rest, -, htext, -, hfirst, rfl⟩
    exact ⟨_, ⟨before, rest, htext, hfirst, rfl⟩, rfl⟩

/-- A template is refused for its digits in all other cases. -/
theorem toBytes_eq_invalidBytecode :
    t.toBytes unit = .error (.invalidBytecode unit (Hex.fault t.text)) ↔
      ¬ (IsDigits t.text ∧ Even t.text.length) ∧ ¬ ['_', '_'] <:+: t.text := by
  rw [← Hex.exists_decode?_iff, not_exists, ← Option.eq_none_iff_forall_ne_some, and_comm,
    ← firstPlaceholder?_eq_none]
  unfold toBytes Hex.decode
  split
  · simp [*]
  · split <;> simp [*, Except.mapError]

/-- A placeholder is reported in full although it holds longer characters. -/
example : toBytes ⟨"é0__é9".toList, []⟩ "App" = .error (.unlinkedPlaceholder "App" "__é9") := by
  decide

end Template

end Rollout
