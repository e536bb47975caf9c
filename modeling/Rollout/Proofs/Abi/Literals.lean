import Mathlib.Algebra.Group.Int.Defs
import Rollout.Abi.Literal
import Rollout.Proofs.Abi.Decoding

/-!
# Literals at the front of a text

A literal is read at the front of a text, and what is left is an end of the text. A number that is
read for an unsigned type has at most the bits of the type. For a signed type only a number without
a minus sign must leave the highest bit free: behind a minus sign, all bits of the type may be used.
A list has at most as many items as its text has characters.
-/

namespace Rollout

variable {α β : Type} {text rest : List Char}

/-- A reader takes a value from the front of a text and leaves an end of the text. -/
def LeavesEnd (read : TextReader α) : Prop :=
  ∀ text a rest, read text = some (a, rest) → rest <:+ text

/-- What is left stays an end when only the value is changed. -/
theorem LeavesEnd.map {read : TextReader α} (hread : LeavesEnd read) (f : α → β) :
    LeavesEnd fun text => (read text).map fun (a, rest) => (f a, rest) := by
  intro text b rest h
  obtain ⟨⟨a, rest'⟩, ha, hpair⟩ := Option.map_eq_some_iff.mp h
  obtain ⟨-, rfl⟩ := Prod.mk.inj hpair
  exact hread text a rest' ha

/-- What is left stays an end when some values are refused. -/
theorem LeavesEnd.bind {read : TextReader α} (hread : LeavesEnd read) {f : α → Option β} :
    LeavesEnd fun text => (read text).bind fun (a, rest) => (f a).map (·, rest) := by
  intro text b rest h
  obtain ⟨⟨a, rest'⟩, ha, hpair⟩ := Option.bind_eq_some_iff.mp h
  obtain ⟨b', -, hpair⟩ := Option.map_eq_some_iff.mp hpair
  obtain ⟨-, rfl⟩ := Prod.mk.inj hpair
  exact hread text a rest' ha

/-- Blanks are dropped from the front. -/
theorem skipInlineBlanks_suffix (text : List Char) : skipInlineBlanks text <:+ text :=
  List.dropWhile_suffix _

/-- A run of characters leaves an end. -/
theorem leavesEnd_spanSome? (belongs : Char → Bool) : LeavesEnd (spanSome? belongs) := by
  intro text run rest h
  rw [spanSome?, Option.ite_none_left_eq_some, Option.some.injEq, Prod.mk.injEq] at h
  exact h.2.2 ▸ List.dropWhile_suffix _

/-- A closing bracket leaves an end. -/
theorem suffix_of_closing? {close : Char} (h : closing? close text = some rest) :
    rest <:+ text := by
  have hblanks := skipInlineBlanks_suffix text
  unfold closing? at h
  split at h
  · rename_i c rest' hskip
    rw [Option.ite_none_right_eq_some, Option.some.injEq] at h
    obtain ⟨-, rfl⟩ := h
    rw [hskip] at hblanks
    exact (List.suffix_cons c rest').trans hblanks
  · cases h

namespace Literal

/-- A word leaves an end. -/
theorem leavesEnd_readBool? : LeavesEnd readBool? := by
  intro text b rest h
  simp only [readBool?, Option.bind_eq_bind, Option.bind_eq_some_iff] at h
  obtain ⟨⟨word, rest'⟩, hword, h⟩ := h
  have hend := leavesEnd_spanSome? _ text word rest' hword
  split at h
  · cases h
    exact hend
  · rw [Option.ite_none_right_eq_some] at h
    cases h.2
    exact hend

/-- Hexadecimal digits leave an end. -/
theorem leavesEnd_readHex? : LeavesEnd readHex? := by
  intro text bytes rest h
  have hdigits : ∃ digits, digits <:+ text ∧ rest = digits.dropWhile Hex.isDigit := by
    unfold readHex? at h
    split at h
    rename_i marked digits hmark
    rw [Option.ite_none_left_eq_some, Option.map_eq_some_iff] at h
    obtain ⟨-, bytes', -, hpair⟩ := h
    refine ⟨digits, ?_, (Prod.mk.inj hpair).2.symm⟩
    split at hmark
    · obtain ⟨-, rfl⟩ := Prod.mk.inj hmark
      exact List.suffix_append ['0', 'x'] _
    · obtain ⟨-, rfl⟩ := Prod.mk.inj hmark
      exact List.suffix_refl _
  obtain ⟨digits, hend, rfl⟩ := hdigits
  exact (List.dropWhile_suffix _).trans hend

/-- A byte string leaves an end. -/
theorem leavesEnd_readBytes? (n : ℕ) : LeavesEnd (readBytes? n) :=
  leavesEnd_readHex?.bind

/-- A whole number leaves an end. -/
theorem leavesEnd_spanWhole? : LeavesEnd spanWhole? := by
  intro text digits rest h
  unfold spanWhole? at h
  split at h
  · rename_i mark behind
    split at h
    · obtain ⟨⟨run, rest'⟩, hrun, hpair⟩ := Option.map_eq_some_iff.mp h
      obtain ⟨-, rfl⟩ := Prod.mk.inj hpair
      exact (leavesEnd_spanSome? _ behind run rest' hrun).trans (List.suffix_append ['0', mark] _)
    · exact leavesEnd_spanSome? _ _ _ _ h
  · exact leavesEnd_spanSome? _ _ _ _ h

/-- A fraction leaves an end. -/
theorem leavesEnd_readFraction? : LeavesEnd readFraction? := by
  intro text digits rest h
  unfold readFraction? at h
  split at h
  · rename_i behind
    exact (leavesEnd_spanSome? _ _ _ _ h).trans (List.suffix_cons '.' behind)
  · cases h
    exact List.suffix_refl _

/-- A positive exponent leaves an end. -/
theorem leavesEnd_readPositive? : LeavesEnd readPositive? := by
  intro text n rest h
  unfold readPositive? at h
  split at h
  · cases h
  · obtain ⟨⟨digits, rest'⟩, hdigits, hpair⟩ := Option.bind_eq_some_iff.mp h
    rw [Option.ite_none_right_eq_some, Option.some.injEq, Prod.mk.injEq] at hpair
    obtain ⟨-, -, rfl⟩ := hpair
    exact leavesEnd_spanSome? _ _ _ _ hdigits

/-- An exponent leaves an end. -/
theorem leavesEnd_readExponentDigits? : LeavesEnd readExponentDigits? := by
  intro text n rest h
  unfold readExponentDigits? at h
  split at h
  · cases h
    exact List.suffix_cons '0' _
  · exact (leavesEnd_readPositive?.map (fun n : ℕ => (-(n : ℤ))) _ _ _ h).trans
      (List.suffix_cons '-' _)
  · exact (leavesEnd_readPositive?.map (fun n : ℕ => (n : ℤ)) _ _ _ h).trans
      (List.suffix_cons '+' _)
  · exact leavesEnd_readPositive?.map (fun n : ℕ => (n : ℤ)) _ _ _ h

/-- An exponent that may be missing leaves an end. -/
theorem readExponent_suffix (text : List Char) : (readExponent text).2 <:+ text := by
  unfold readExponent
  split
  · cases hdigits : readExponentDigits? (text.drop 1) with
    | none => exact List.suffix_refl text
    | some pair =>
      exact (leavesEnd_readExponentDigits? _ pair.1 pair.2 hdigits).trans (List.drop_suffix 1 text)
  · exact List.suffix_refl text

/-- A unit leaves an end. -/
theorem leavesEnd_readUnit? : LeavesEnd readUnit? := by
  intro text places rest h
  have hrest : rest = text.dropWhile Char.isAlpha := by
    simp only [readUnit?] at h
    split at h
    · cases h
      rfl
    · split at h
      · cases h
        rfl
      · rw [Option.ite_none_right_eq_some] at h
        cases h.2
        rfl
  exact hrest ▸ List.dropWhile_suffix _

/-- An unsigned number leaves an end and has at most the bits of its type. -/
theorem readUint?_eq_some {bits n : ℕ} (h : readUint? bits text = some (n, rest)) :
    rest <:+ text ∧ n < 2 ^ bits := by
  simp only [readUint?, Option.bind_eq_bind, Option.bind_eq_some_iff] at h
  obtain ⟨⟨digits, rest₁⟩, hwhole, ⟨fraction, rest₂⟩, hfraction, whole, -, ⟨places, rest₃⟩, hunit,
    m, -, hm⟩ := h
  rw [Option.ite_none_right_eq_some] at hm
  obtain ⟨hlt, hpair⟩ := hm
  cases hpair
  have hunitEnd := (leavesEnd_readUnit? _ _ _ hunit).trans (skipInlineBlanks_suffix _)
  have hfractionEnd := (leavesEnd_readFraction? _ _ _ hfraction).trans
    (leavesEnd_spanWhole? _ _ _ hwhole)
  exact ⟨hunitEnd.trans ((readExponent_suffix rest₂).trans hfractionEnd), hlt⟩

/-- A number without a minus sign leaves an end and the highest bit free. -/
theorem positive_eq_some {bits : ℕ} {z : ℤ} (h : readInt?.positive bits text = some (z, rest)) :
    rest <:+ text ∧ 0 ≤ z ∧ z < 2 ^ (bits - 1) := by
  unfold readInt?.positive at h
  obtain ⟨⟨n, rest'⟩, hread, h⟩ := Option.bind_eq_some_iff.mp h
  rw [Option.ite_none_right_eq_some] at h
  obtain ⟨hlt, hpair⟩ := h
  cases hpair
  refine ⟨(readUint?_eq_some hread).1, Int.natCast_nonneg n, ?_⟩
  exact_mod_cast hlt

/-- The text begins with a minus sign and a number that has the bits of the type but is below its
range, although two's complement of 256 bits can hold it. -/
def SpellsLower (bits : ℕ) (text : List Char) (n : ℕ) : Prop :=
  ∃ literal rest, text = '-' :: literal ∧ readUint? bits literal = some (n, rest) ∧
    2 ^ (bits - 1) < n ∧ n < 2 ^ bits ∧ n ≤ 2 ^ 255

/-- A signed number leaves an end. It is in the range of its type, or it is behind a minus sign and
lower. -/
theorem readInt?_eq_some {bits : ℕ} {z : ℤ} (h : readInt? bits text = some (z, rest)) :
    rest <:+ text ∧ z < 2 ^ (bits - 1) ∧
      (-(2 ^ (bits - 1)) ≤ z ∨ ∃ n : ℕ, SpellsLower bits text n ∧ z = -(n : ℤ)) := by
  have hpower : (0 : ℤ) < 2 ^ (bits - 1) := Int.pow_pos (by decide)
  unfold readInt? at h
  split at h
  · rename_i literal
    obtain ⟨⟨n, rest'⟩, hread, h⟩ := Option.bind_eq_some_iff.mp h
    rw [Option.ite_none_right_eq_some] at h
    obtain ⟨hhalf, hpair⟩ := h
    cases hpair
    obtain ⟨hend, hlt⟩ := readUint?_eq_some hread
    refine ⟨hend.trans (List.suffix_cons '-' literal), by omega, ?_⟩
    rcases Nat.lt_or_ge (2 ^ (bits - 1)) n with hlow | hin
    · exact Or.inr ⟨n, ⟨literal, rest, rfl, hread, hlow, hlt, hhalf⟩, rfl⟩
    · have hcast : (n : ℤ) ≤ 2 ^ (bits - 1) := by exact_mod_cast hin
      exact Or.inl (Int.neg_le_neg hcast)
  · obtain ⟨hend, hpositive, hlt⟩ := positive_eq_some h
    exact ⟨hend.trans (List.suffix_cons '+' _), hlt, Or.inl (by omega)⟩
  · obtain ⟨hend, hpositive, hlt⟩ := positive_eq_some h
    exact ⟨hend, hlt, Or.inl (by omega)⟩

/-- A string leaves an end. -/
theorem readString?_suffix {close : Option Char} {s : String}
    (h : readString? close text = some (s, rest)) : rest <:+ text := by
  unfold readString? at h
  split at h
  · cases h
    exact List.suffix_refl _
  · rename_i c behind
    split at h
    · have hbehind : behind.dropWhile (· ≠ c) <:+ c :: behind :=
        (List.dropWhile_suffix _).trans (List.suffix_cons c behind)
      split at h
      · cases h
      · rename_i quote after hquote
        cases h
        rw [hquote] at hbehind
        exact (List.suffix_cons quote rest).trans hbehind
    · split at h
      · cases h
        exact List.nil_suffix
      · exact (leavesEnd_spanSome? _).map (fun chars => String.ofList (trimRight chars)) _ _ _ h

/-- A mark leaves an end. -/
theorem suffix_of_skipMark? {mark : Char} (h : skipMark? mark text = some rest) :
    rest <:+ text := by
  have hblanks := skipInlineBlanks_suffix text
  unfold skipMark? at h
  split at h
  · rename_i c behind hskip
    rw [Option.ite_none_right_eq_some, Option.some.injEq] at h
    obtain ⟨-, rfl⟩ := h
    rw [hskip] at hblanks
    exact (skipInlineBlanks_suffix behind).trans ((List.suffix_cons c behind).trans hblanks)
  · cases h

section Lists

variable {P : List Char → α → Prop} {read : TextReader α} {close : Char} {items : List α}
  {fuel : ℕ}

/-- What a reader finds out about a value and the text that it is read from, which stays true when
more text stands in front. -/
structure Finds (P : List Char → α → Prop) (read : TextReader α) : Prop where
  mono : ∀ text text' a, text' <:+ text → P text' a → P text a
  suffix : LeavesEnd read
  found : ∀ text a rest, read text = some (a, rest) → P text a

/-- What is found out about each item holds for all items of a list, of which there are no more than
the fuel. -/
theorem Finds.readItems (hfinds : Finds P read)
    (h : readItems close read fuel text = some (items, rest)) :
    rest <:+ text ∧ (∀ item ∈ items, P text item) ∧ items.length ≤ fuel := by
  induction fuel generalizing text items with
  | zero => cases h
  | succ fuel ih =>
    simp only [Rollout.readItems, Option.bind_eq_bind, Option.bind_eq_some_iff] at h
    obtain ⟨⟨item, behind⟩, hitem, h⟩ := h
    have hend := hfinds.suffix text item behind hitem
    have hfound := hfinds.found text item behind hitem
    have hsingle : items = [item] → (∀ item ∈ items, P text item) ∧ items.length ≤ fuel + 1 := by
      rintro rfl
      exact ⟨by simpa using hfound, by simp⟩
    dsimp only at h
    split at h
    · rename_i behind
      have hcomma : behind <:+ text := (List.suffix_cons ',' behind).trans hend
      split at h
      · rename_i rest' hclose
        cases h
        exact ⟨(suffix_of_closing? hclose).trans hcomma, hsingle rfl⟩
      · simp only [Option.bind_eq_some_iff, Option.pure_def, Option.some.injEq,
          Prod.mk.injEq] at h
        obtain ⟨⟨others, rest'⟩, hothers, rfl, rfl⟩ := h
        obtain ⟨hend', hall, hlength⟩ := ih hothers
        have hskip : skipInlineBlanks behind <:+ text :=
          (skipInlineBlanks_suffix behind).trans hcomma
        refine ⟨hend'.trans hskip, ?_, by simpa using hlength⟩
        rw [List.forall_mem_cons]
        exact ⟨hfound, fun other hother => hfinds.mono _ _ _ hskip (hall other hother)⟩
    · obtain ⟨rest', hclose, hpair⟩ := Option.map_eq_some_iff.mp h
      cases hpair
      exact ⟨(suffix_of_closing? hclose).trans hend, hsingle rfl⟩

/-- What is found out about each item holds for all items of a list in brackets, of which there are
no more than the text has characters. -/
theorem Finds.readList? (hfinds : Finds P read) (h : readList? read text = some (items, rest)) :
    rest <:+ text ∧ (∀ item ∈ items, P text item) ∧ items.length ≤ text.length := by
  unfold Literal.readList? at h
  split at h
  · rename_i behind
    have hopen : behind <:+ '[' :: behind := List.suffix_cons '[' behind
    unfold readBracketed at h
    split at h
    · rename_i rest' hclose
      cases h
      exact ⟨(suffix_of_closing? hclose).trans hopen, by simp, by simp⟩
    · obtain ⟨hend, hall, hlength⟩ := hfinds.readItems h
      have hskip : skipInlineBlanks behind <:+ '[' :: behind :=
        (skipInlineBlanks_suffix behind).trans hopen
      exact ⟨hend.trans hskip, fun item hitem => hfinds.mono _ _ _ hskip (hall item hitem),
        by simpa using hlength⟩
  · cases h

/-- An item that stands one list deeper is read by the same reader, or not at all. -/
theorem Finds.deeper {readAt : ℕ → TextReader α} (hfinds : ∀ levels, Finds P (readAt levels))
    (levels : ℕ) : Finds P (deeper readAt levels) := by
  cases levels with
  | zero =>
    have hnone (text a rest) : Rollout.deeper readAt 0 text ≠ some (a, rest) :=
      (Option.some_ne_none _).symm
    exact ⟨(hfinds 0).mono, fun text a rest h => (hnone text a rest h).elim,
      fun text a rest h => (hnone text a rest h).elim⟩
  | succ levels => exact hfinds levels

end Lists

end Literal

/-- The number is one of its type: an unsigned one has at most the bits of the type, and a signed
one is the two's complement of a number from `-2 ^ (bits - 1)` up to `2 ^ (bits - 1) - 1`. -/
def Value.IsInRange : Value → Prop
  | .uint w bits => w.toNat < 2 ^ bits
  | .int w bits =>
    ∃ z : ℤ, -(2 ^ (bits - 1)) ≤ z ∧ z < 2 ^ (bits - 1) ∧ w = BitVec.ofInt 256 z
  | _ => True

/-- The number is a signed one below the range of its type, and the text spells it somewhere. -/
def Value.IsBelowRange (text : List Char) : Value → Prop
  | .int w bits => ∃ before behind n, text = before ++ behind ∧ Literal.SpellsLower bits behind n ∧
      w = BitVec.ofInt 256 (-(n : ℤ))
  | _ => False

/-- The value keeps within the bounds that a text puts on it: a number is one of its type or lower
and spelled in the text, and a list has no more items than the text has characters. -/
structure Value.IsBoundedBy (text : List Char) (value : Value) : Prop where
  number : value.IsInRange ∨ value.IsBelowRange text
  count_le : ∀ items, value = .array items → items.length ≤ text.length

/-- Bounds stay when more text stands in front. -/
theorem Value.IsBoundedBy.mono {text' : List Char} {value : Value} (hend : text' <:+ text)
    (hbounded : value.IsBoundedBy text') : value.IsBoundedBy text := by
  refine ⟨hbounded.number.imp_right fun hbelow => ?_,
    fun items hitems => Nat.le_trans (hbounded.count_le items hitems) hend.length_le⟩
  cases value with
  | int w bits =>
    obtain ⟨before, behind, n, rfl, hspelled⟩ := hbelow
    obtain ⟨front, rfl⟩ := hend
    exact ⟨front ++ before, behind, n, by rw [List.append_assoc], hspelled⟩
  | bool | address | function | string | bytes | fixedBytes | uint | array | fixedArray | tuple =>
    exact hbelow.elim

namespace Value

variable {value item : Value} {items : List Value}

/-- The value and all that stands inside it keep within the bounds. -/
def AllBoundedBy (text : List Char) (value : Value) : Prop :=
  ∀ inner : Value, Within inner value → inner.IsBoundedBy text

/-- The value is neither a number nor made of items. -/
def isPlain : Value → Bool
  | .bool _ | .address _ | .function _ | .string _ | .bytes _ | .fixedBytes _ => true
  | _ => false

/-- Nothing bounds a value that is neither a number nor made of items. -/
theorem AllBoundedBy.of_isPlain (hplain : value.isPlain = true) : value.AllBoundedBy text := by
  intro inner hwithin
  cases hwithin with
  | refl =>
    cases value with
    | bool | address | function | string | bytes | fixedBytes => exact ⟨Or.inl trivial, nofun⟩
    | uint | int | array | fixedArray | tuple => cases hplain
  | array | fixedArray | tuple => cases hplain

/-- A list is bounded by a text that bounds its items and has at least as many characters. -/
theorem AllBoundedBy.array (hitems : ∀ item ∈ items, item.AllBoundedBy text)
    (hlength : items.length ≤ text.length) : (Value.array items).AllBoundedBy text := by
  intro inner hwithin
  cases hwithin with
  | refl => exact ⟨Or.inl trivial, fun _ heq => by cases heq; exact hlength⟩
  | array hitem hinner => exact hitems _ hitem inner hinner

/-- A list of a fixed length is bounded by a text that bounds its items. -/
theorem AllBoundedBy.fixedArray (hitems : ∀ item ∈ items, item.AllBoundedBy text) :
    (Value.fixedArray items).AllBoundedBy text := by
  intro inner hwithin
  cases hwithin with
  | refl => exact ⟨Or.inl trivial, nofun⟩
  | fixedArray hitem hinner => exact hitems _ hitem inner hinner

/-- A tuple is bounded by a text that bounds its items. -/
theorem AllBoundedBy.tuple (hitems : ∀ item ∈ items, item.AllBoundedBy text) :
    (Value.tuple items).AllBoundedBy text := by
  intro inner hwithin
  cases hwithin with
  | refl => exact ⟨Or.inl trivial, nofun⟩
  | tuple hitem hinner => exact hitems _ hitem inner hinner

/-- Bounds inside a value stay when more text stands in front. -/
theorem AllBoundedBy.mono {text' : List Char} (hend : text' <:+ text)
    (hbounded : value.AllBoundedBy text') : value.AllBoundedBy text :=
  fun inner hwithin => (hbounded inner hwithin).mono hend

end Value

namespace Literal

variable {value : Value}

/-- A reader that leaves an end and bounds its values by their text finds these bounds out. -/
theorem finds_of_bounded {read : TextReader Value}
    (hread : ∀ text value rest, read text = some (value, rest) →
      rest <:+ text ∧ value.AllBoundedBy text) :
    Finds (fun text value => value.AllBoundedBy text) read :=
  ⟨fun _ _ _ hend hbounded => hbounded.mono hend,
    fun text value rest h => (hread text value rest h).1,
    fun text value rest h => (hread text value rest h).2⟩

/-- A literal without numbers and items leaves an end of its text, and nothing bounds its value. -/
theorem bounded_of_plain {read : TextReader α} (wrap : α → Value) (hread : LeavesEnd read)
    (hplain : ∀ a, (wrap a).isPlain = true)
    (h : ((read text).map fun (a, rest) => (wrap a, rest)) = some (value, rest)) :
    rest <:+ text ∧ value.AllBoundedBy text := by
  obtain ⟨⟨a, rest'⟩, ha, hpair⟩ := Option.map_eq_some_iff.mp h
  cases hpair
  exact ⟨hread text a rest ha, .of_isPlain (hplain a)⟩

mutual

/-- A literal leaves an end of its text, and its value is bounded by its text. -/
theorem bounded_of_read? (ty : Ty) : ∀ (levels : ℕ) (close : Option Char) (text : List Char)
    (value : Value) (rest : List Char), read? ty levels close text = some (value, rest) →
      rest <:+ text ∧ value.AllBoundedBy text := by
  intro levels close text value rest h
  match ty with
  | .bool =>
    exact bounded_of_plain .bool leavesEnd_readBool? (fun _ => rfl) h
  | .address =>
    exact bounded_of_plain .address (leavesEnd_readBytes? 20) (fun _ => rfl) h
  | .function =>
    exact bounded_of_plain (fun f : FixedBytes 24 => .function f.bytes) (leavesEnd_readBytes? 24)
      (fun _ => rfl) h
  | .string =>
    exact bounded_of_plain .string (fun _ _ _ => readString?_suffix) (fun _ => rfl) h
  | .bytes =>
    exact bounded_of_plain .bytes leavesEnd_readHex? (fun _ => rfl) h
  | .fixedBytes n =>
    exact bounded_of_plain (fun b : FixedBytes n => .fixedBytes b.bytes) (leavesEnd_readBytes? n)
      (fun _ => rfl) h
  | .uint bits =>
    obtain ⟨⟨n, rest'⟩, hread, hpair⟩ := Option.map_eq_some_iff.mp h
    cases hpair
    obtain ⟨hend, hlt⟩ := readUint?_eq_some hread
    refine ⟨hend, ?_⟩
    rintro _ ⟨⟩
    refine ⟨Or.inl ?_, nofun⟩
    calc (BitVec.ofNat 256 n).toNat = n % 2 ^ 256 := BitVec.toNat_ofNat n 256
      _ ≤ n := Nat.mod_le n _
      _ < 2 ^ bits := hlt
  | .int bits =>
    obtain ⟨⟨z, rest'⟩, hread, hpair⟩ := Option.map_eq_some_iff.mp h
    cases hpair
    obtain ⟨hend, hlt, hlow⟩ := readInt?_eq_some hread
    refine ⟨hend, ?_⟩
    rintro _ ⟨⟩
    refine ⟨?_, nofun⟩
    rcases hlow with hlow | ⟨n, hspelled, hz⟩
    · exact Or.inl ⟨z, hlow, hlt, rfl⟩
    · exact Or.inr ⟨[], text, n, rfl, hspelled, by rw [hz]⟩
  | .array item =>
    obtain ⟨⟨items, rest'⟩, hread, hpair⟩ := Option.map_eq_some_iff.mp h
    cases hpair
    have hfinds (levels) := finds_of_bounded (bounded_of_read? item levels (some ']'))
    obtain ⟨hend, hitems, hlength⟩ := (Finds.deeper hfinds levels).readList? hread
    exact ⟨hend, .array hitems hlength⟩
  | .fixedArray item length =>
    obtain ⟨⟨items, rest'⟩, hread, hpair⟩ := Option.bind_eq_some_iff.mp h
    rw [Option.ite_none_right_eq_some] at hpair
    cases hpair.2
    have hfinds (levels) := finds_of_bounded (bounded_of_read? item levels (some ']'))
    obtain ⟨hend, hitems, -⟩ := (Finds.deeper hfinds levels).readList? hread
    exact ⟨hend, .fixedArray hitems⟩
  | .tuple items =>
    have hblanks := skipInlineBlanks_suffix text
    unfold read? at h
    split at h
    · rename_i behind hskip
      obtain ⟨⟨values, rest'⟩, hread, hpair⟩ := Option.map_eq_some_iff.mp h
      cases hpair
      have hbehind : skipInlineBlanks behind <:+ text := by
        rw [hskip] at hblanks
        exact (skipInlineBlanks_suffix behind).trans ((List.suffix_cons '(' behind).trans hblanks)
      obtain ⟨hend, hitems⟩ := bounded_of_readTuple? items _ _ _ _ hread
      exact ⟨hend.trans hbehind, .tuple fun item hitem => (hitems item hitem).mono hbehind⟩
    · cases h

/-- The items of a tuple leave an end of their text, and their values are bounded by it. -/
theorem bounded_of_readTuple? (types : List Ty) : ∀ (levels : ℕ) (text : List Char)
    (values : List Value) (rest : List Char), readTuple? types levels text = some (values, rest) →
      rest <:+ text ∧ ∀ value ∈ values, value.AllBoundedBy text := by
  intro levels text values rest h
  match types with
  | [] =>
    obtain ⟨rest', hclose, hpair⟩ := Option.map_eq_some_iff.mp h
    cases hpair
    exact ⟨suffix_of_closing? hclose, by simp⟩
  | [item] =>
    obtain ⟨⟨value, behind⟩, hread, h⟩ := Option.bind_eq_some_iff.mp h
    obtain ⟨rest', hclose, hpair⟩ := Option.map_eq_some_iff.mp h
    cases hpair
    obtain ⟨hend, hbounded⟩ := bounded_of_read? item _ _ _ _ _ hread
    exact ⟨(suffix_of_closing? hclose).trans hend, by simpa using hbounded⟩
  | item :: next :: types =>
    simp only [readTuple?, Option.bind_eq_bind, Option.bind_eq_some_iff] at h
    obtain ⟨⟨value, behind⟩, hread, comma, hmark, ⟨others, rest'⟩, hothers, hpair⟩ := h
    cases hpair
    obtain ⟨hend, hbounded⟩ := bounded_of_read? item _ _ _ _ _ hread
    obtain ⟨hend', hothers⟩ := bounded_of_readTuple? (next :: types) _ _ _ _ hothers
    have hcomma : comma <:+ text := (suffix_of_skipMark? hmark).trans hend
    refine ⟨hend'.trans hcomma, ?_⟩
    rw [List.forall_mem_cons]
    exact ⟨hbounded, fun other hother => (hothers other hother).mono hcomma⟩

end

/-- The value of a literal is bounded by its text. -/
theorem bounded_of_parse? {ty : Ty} {s : String} (h : parse? ty s = some value) :
    value.AllBoundedBy s.toList := by
  obtain ⟨⟨value', rest⟩, hread, hvalue⟩ := Option.bind_eq_some_iff.mp h
  rw [Option.ite_none_right_eq_some] at hvalue
  cases hvalue.2
  exact (bounded_of_read? ty _ _ _ _ _ hread).2

end Literal

end Rollout
