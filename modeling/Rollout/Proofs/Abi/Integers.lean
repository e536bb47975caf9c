import Rollout.Proofs.Abi.Literals
import Rollout.Proofs.Abi.TextForms

/-!
# Numbers in encoded arguments

The words of all numbers that are encoded can be read back, at whatever depth they stand in lists
and tuples. An unsigned number has at most the bits of its type. A signed number is in the range of
its type, unless the text of the argument spells a lower one behind a minus sign: a magnitude that
has the bits of the type is then accepted, and the word is no number of the type.
-/

namespace Rollout

variable {parameters : List Parameter} {arguments : List ResolvedArgument} {values : List Value}
  {data : List UInt8} {p : Parameter} {a : ResolvedArgument} {value : Value} {text : List Char}
  {w : Uint256} {bits n : ℕ}

section Ranges

/-- A number in the range of 256 bits is the one of its two's complement. -/
theorem toInt_ofInt_of_range {z : ℤ} (hlow : -(2 ^ 255) ≤ z) (hhigh : z < 2 ^ 255) :
    (BitVec.ofInt 256 z).toInt = z := by
  rw [BitVec.toInt_ofInt]
  exact Int.bmod_eq_of_le (by omega) (by omega)

/-- A word is a signed number of a type if, in two's complement, it is in the range of the type. -/
theorem isInRange_int_iff (hbits : bits ≤ 256) : (Value.int w bits).IsInRange ↔
    -(2 ^ (bits - 1)) ≤ w.toInt ∧ w.toInt < 2 ^ (bits - 1) := by
  have hpower : (2 : ℤ) ^ (bits - 1) ≤ 2 ^ 255 := by
    exact_mod_cast Nat.pow_le_pow_right (by decide) (show bits - 1 ≤ 255 by omega)
  constructor
  · rintro ⟨z, hlow, hhigh, rfl⟩
    rw [toInt_ofInt_of_range (by omega) (by omega)]
    exact ⟨hlow, hhigh⟩
  · rintro ⟨hlow, hhigh⟩
    exact ⟨w.toInt, hlow, hhigh, BitVec.ofInt_toInt.symm⟩

/-- A lower number that a text spells is not in the range of its type. -/
theorem not_isInRange_of_isBelowRange (hbits : bits ≤ 256)
    (hbelow : (Value.int w bits).IsBelowRange text) : ¬ (Value.int w bits).IsInRange := by
  obtain ⟨before, behind, n, -, ⟨-, -, -, -, hlow, -, hhalf⟩, rfl⟩ := hbelow
  have hlow : (2 : ℤ) ^ (bits - 1) < n := by exact_mod_cast hlow
  have hhalf : (n : ℤ) ≤ 2 ^ 255 := by exact_mod_cast hhalf
  rw [isInRange_int_iff hbits, toInt_ofInt_of_range (by omega) (by omega)]
  omega

end Ranges

/-- The value of an argument is bounded by the text of the argument. -/
theorem bounded_of_coerceFor (h : a.coerceFor p = .ok value) :
    value.AllBoundedBy a.text.toList := by
  obtain ⟨ty, -, hvalue⟩ := Option.bind_eq_some_iff.mp (ResolvedArgument.coerceFor_eq_ok.mp h)
  unfold Literal.valueOf? at hvalue
  split at hvalue
  · cases hvalue
    exact .of_isPlain rfl
  · exact Literal.bounded_of_parse? hvalue

/-- The values of arguments are bounded by the texts of the arguments. -/
theorem bounded_of_coerceAll (h : ResolvedArgument.coerceAll parameters arguments = .ok values) :
    List.Forall₂ (fun a value => value.AllBoundedBy a.text.toList) arguments values := by
  obtain ⟨hlength, hvalues⟩ := coerceAll_eq_ok.mp h
  have hbounded := hvalues.imp fun _ _ => bounded_of_coerceFor
  rw [← List.map_snd_zip (Nat.le_of_eq hlength.symm), List.forall₂_map_left_iff]
  exact hbounded

/-- The words of all numbers that are encoded can be read back. An unsigned number has at most the
bits of its type. A signed number is in the range of its type, or the text of its argument spells a
lower one behind a minus sign. No text and no encoding in memory has 2 ^ 256 characters or bytes. -/
theorem encoded_numbers (hencodes : Encodes parameters arguments data) :
    ∃ types values, Parameter.resolveAll? parameters = some types ∧
      Value.fitEach types values = true ∧ data = Value.encode values ∧
      (data.length < 2 ^ 256 → (∀ a ∈ arguments, a.text.length < 2 ^ 256) →
        Value.decode? types data = some values) ∧
      List.Forall₂ (fun a value => ∀ inner : Value, Value.Within inner value →
        inner.IsInRange ∨ inner.IsBelowRange a.text.toList) arguments values := by
  obtain ⟨types, values, htypes, hvalues, hfits, rfl⟩ :=
    encodeArguments_eq_ok.mp (encodes_iff.mp hencodes)
  have hbounded := bounded_of_coerceAll hvalues
  refine ⟨types, values, htypes, hfits, rfl, fun hsize htexts => ?_, ?_⟩
  · refine Value.decode?_encode hfits hsize fun value hvalue items hwithin => ?_
    obtain ⟨a, ha, hbound⟩ := exists_left_of_forall₂ hbounded hvalue
    calc items.length ≤ a.text.toList.length := (hbound _ hwithin).count_le items rfl
      _ = a.text.length := String.length_toList
      _ < 2 ^ 256 := htexts a ha
  · exact hbounded.imp fun a value hbound inner hwithin => (hbound inner hwithin).number

/-- The list of two signed numbers of eight bits. -/
theorem resolve?_int8Pair :
    (Parameter.plain "int8[2]").resolve? = some (.fixedArray (.int 8) 2) :=
  have hparse : TypeText.parse? "int8[2]" = some (.named "int8" [some 2]) := rfl
  Parameter.resolve?_of_named hparse rfl

/-- The greatest unsigned and the extreme signed numbers of eight bits are encoded and read back. -/
theorem encoded_numbers_of_extreme :
    ∃ data, Encodes [.plain "uint8", .plain "int8[2]"] [.uint 255, .string "[-128, 127]"] data ∧
      ∃ types values, Parameter.resolveAll? [.plain "uint8", .plain "int8[2]"] = some types ∧
        Value.decode? types data = some values ∧
        List.Forall₂ (fun a value => ∀ inner : Value, Value.Within inner value →
            inner.IsInRange ∨ inner.IsBelowRange a.text.toList)
          [ResolvedArgument.uint 255, .string "[-128, 127]"] values := by
  have htypes : Parameter.resolveAll? [.plain "uint8", .plain "int8[2]"] =
      some [.uint 8, .fixedArray (.int 8) 2] :=
    resolveAll?_eq_some.mpr (.cons resolve?_uint8 (.cons resolve?_int8Pair .nil))
  have hamount : (ResolvedArgument.uint 255).coerceFor (.plain "uint8") = .ok (.uint 255 8) :=
    ResolvedArgument.coerceFor_eq_ok.mpr (by rw [resolve?_uint8]; rfl)
  have hpair : (ResolvedArgument.string "[-128, 127]").coerceFor (.plain "int8[2]") =
      .ok (.fixedArray [.int (BitVec.ofInt 256 (-128)) 8, .int 127 8]) :=
    ResolvedArgument.coerceFor_eq_ok.mpr (by rw [resolve?_int8Pair]; rfl)
  have hencodes : Encodes [.plain "uint8", .plain "int8[2]"] [.uint 255, .string "[-128, 127]"]
      (Value.encode [.uint 255 8,
        .fixedArray [.int (BitVec.ofInt 256 (-128)) 8, .int 127 8]]) :=
    encodes_iff.mpr (encodeArguments_eq_ok.mpr ⟨_, _, htypes,
      coerceAll_eq_ok.mpr ⟨rfl, .cons hamount (.cons hpair .nil)⟩, rfl, rfl⟩)
  obtain ⟨types, values, htypes', -, -, hdecode, hnumbers⟩ := encoded_numbers hencodes
  exact ⟨_, hencodes, types, values, htypes', hdecode (by decide) (by decide), hnumbers⟩

/-- A magnitude of at most the bits of a signed type is read behind a minus sign, also when it is
too great for the type. -/
theorem Literal.parse?_negative (bits : ℕ) (v : Uint256) (hbits : v.toNat < 2 ^ bits)
    (hhalf : v.toNat ≤ 2 ^ 255) :
    Literal.parse? (.int bits) (String.ofList ('-' :: v.decimal.toList)) =
      some (.int (BitVec.ofInt 256 (-(v.toNat : ℤ))) bits) := by
  have hread : Literal.readInt? bits ('-' :: v.decimal.toList) = some (-(v.toNat : ℤ), []) := by
    rw [Literal.readInt?, Literal.readUint?_decimal, if_pos hbits, Option.bind_some]
    exact if_pos hhalf
  simp only [Literal.parse?, Literal.read?, String.toList_ofList, hread, Option.map_some,
    Option.bind_some, if_true]

/-- For eight bits, -255 is encoded, and its word is that of no number of eight bits. -/
theorem lower_number_encoded :
    (Parameter.plain "int8").resolve? = some (.int 8) ∧
      ∃ data, Interface.encodeConstructor ⟨some [.plain "int8"]⟩ [.string "-255"] = .ok data ∧
        ∀ z : ℤ, -(2 ^ 7) ≤ z → z < 2 ^ 7 → data ≠ Uint256.bytes (BitVec.ofInt 256 z) := by
  have hparse : TypeText.parse? "int8" = some (.named "int8" []) := rfl
  have htype : (Parameter.plain "int8").resolve? = some (.int 8) :=
    Parameter.resolve?_of_named hparse rfl
  have hvalue : (ResolvedArgument.string "-255").coerceFor (.plain "int8") =
      .ok (.int (BitVec.ofInt 256 (-255)) 8) := by
    refine ResolvedArgument.coerceFor_eq_ok.mpr ?_
    rw [htype]
    exact Literal.parse?_negative 8 255 (by decide) (by decide)
  have hencode : Interface.encodeConstructor ⟨some [.plain "int8"]⟩ [.string "-255"] =
      .ok (Uint256.bytes (BitVec.ofInt 256 (-255))) :=
    encodeArguments_eq_ok.mpr ⟨_, _, resolveAll?_eq_some.mpr (.cons htype .nil),
      coerceAll_eq_ok.mpr ⟨rfl, .cons hvalue .nil⟩, rfl, rfl⟩
  have hbelow : (Value.int (BitVec.ofInt 256 (-255)) 8).IsBelowRange ['-', '2', '5', '5'] :=
    ⟨[], _, 255, rfl,
      ⟨_, [], rfl, Literal.readUint?_decimal 8 255, by decide, by decide, by decide⟩, rfl⟩
  refine ⟨htype, _, hencode, fun z hlow hhigh hsame => ?_⟩
  have hword : BitVec.ofInt 256 (-255) = BitVec.ofInt 256 z := by
    have hread := Value.map_word?_bytes (BitVec.ofInt 256 (-255)) []
    rw [hsame, Value.map_word?_bytes] at hread
    exact (Option.some.inj hread).symm
  exact not_isInRange_of_isBelowRange (by decide) hbelow ⟨z, hlow, hhigh, hword⟩

end Rollout
