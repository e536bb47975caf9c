import Rollout.Proofs.Abi.Arguments
import Rollout.Proofs.Address
import Rollout.Proofs.Json.Literals
import Rollout.Proofs.Uint256

/-!
# Arguments as text

An address, a number or a truth value has a text: the checksummed address, the decimal digits or the
word. Read as a literal, this text is the value that the argument has anyway. What an argument is
encoded as therefore depends on its text alone, and it makes no difference whether the argument is
given in its own kind or as its text.
-/

namespace Rollout

/-- A run of characters takes the whole text if all of it belongs to the run. -/
theorem spanSome?_eq_self {belongs : Char → Bool} {text : List Char} (hne : text ≠ [])
    (hall : ∀ c ∈ text, belongs c = true) : spanSome? belongs text = some (text, []) := by
  have htake : text.takeWhile belongs = text := List.takeWhile_eq_self_iff.mpr hall
  have hdrop : text.dropWhile belongs = [] := List.dropWhile_eq_nil_iff.mpr hall
  rw [spanSome?, htake, hdrop, if_neg hne]

/-- The character is neither a blank nor a quotation mark. -/
def IsBare (c : Char) : Prop :=
  isBlank c = false ∧ c ≠ '"' ∧ c ≠ '\x27'

instance : DecidablePred IsBare := fun c =>
  inferInstanceAs (Decidable (isBlank c = false ∧ c ≠ '"' ∧ c ≠ '\x27'))

/-- Hexadecimal digits are bare. -/
theorem Hex.isBare_of_isDigit {c : Char} (hdigit : Hex.isDigit c = true) : IsBare c := by
  have hrange := Hex.range_of_isDigit hdigit
  refine ⟨?_, ?_, ?_⟩
  · simp [isBlank]
    omega
  · rintro rfl
    cases hdigit
  · rintro rfl
    cases hdigit

/-- Decimal digits are bare. -/
theorem Decimal.isBare_of_mem_digits {n : ℕ} {c : Char} (hc : c ∈ Decimal.digits n) : IsBare c := by
  obtain ⟨d, hd, rfl⟩ := Uint256.exists_digitChar_of_mem_toDigits (by decide) hc
  refine Hex.isBare_of_isDigit ?_
  rw [Hex.isDigit, Hex.digit?_digitChar (by omega)]
  rfl

/-- Nothing is cut off from bare characters. -/
theorem trimRight_of_isBare {text : List Char} (hbare : ∀ c ∈ text, IsBare c) :
    trimRight text = text := by
  have hkept : text.reverse.dropWhile isBlank = text.reverse := by
    cases hreverse : text.reverse with
    | nil => rfl
    | cons c rest =>
      have hc : c ∈ text := by
        rw [← List.mem_reverse, hreverse]
        exact List.mem_cons_self
      exact List.dropWhile_cons_of_neg (by rw [(hbare c hc).1]; decide)
  rw [trimRight, hkept, List.reverse_reverse]

/-- An amount is read from its decimal digits. -/
theorem Uint256.parse?_decimal (v : Uint256) : Uint256.parse? v.decimal = some v := by
  have hkept : (Decimal.digits v.toNat).filter (· ≠ '_') = Decimal.digits v.toNat := by
    refine List.filter_eq_self.mpr fun c hc => decide_eq_true ?_
    rintro rfl
    exact absurd (Decimal.isDigit_of_mem_digits hc) (by decide)
  have hspells : Spells 10 (Decimal.digits v.toNat) v.toNat :=
    Uint256.foldlM_push_eq_some.mp (Uint256.foldlM_push_toDigits (by decide) (by decide) v.toNat)
  refine parse?_eq_some.mpr (Or.inl ⟨[], 10, Decimal.digits v.toNat, by simp [marks], ?_, ?_, ?_⟩)
  · rw [decimal, String.toList_ofList, List.nil_append]
  · rw [hkept]
    exact Nat.toDigits_ne_nil
  · rwa [hkept]

namespace Literal

/-- Bare characters are a string of their own. -/
theorem parse?_string {s : String} (hbare : ∀ c ∈ s.toList, IsBare c) :
    parse? .string s = some (.string s) := by
  have hread : readString? none s.toList = some (s, []) := by
    cases hs : s.toList with
    | nil => rw [String.toList_eq_nil_iff.mp hs, readString?]
    | cons c rest =>
      have hquote : ¬ (c = '"' ∨ c = '\x27') := by
        have hc := hbare c (hs ▸ List.mem_cons_self)
        rintro (h | h)
        · exact hc.2.1 h
        · exact hc.2.2 h
      simp only [readString?, if_neg hquote]
      rw [← hs, trimRight_of_isBare hbare, String.ofList_toList]
  simp only [parse?, read?, hread, Option.map_some, Option.bind_some, if_true]

/-- The word for a truth value is read as it. -/
theorem parse?_bool (b : Bool) : parse? .bool (toString b) = some (.bool b) := by
  cases b <;> simp only [parse?, read?] <;> rfl

/-- A checksummed address is read as the address. -/
theorem parse?_address (a : Address) : parse? .address a.checksum = some (.address a) := by
  have htake : a.checksumDigits.takeWhile Hex.isDigit = a.checksumDigits :=
    List.takeWhile_eq_self_iff.mpr fun c => a.isDigit_of_mem_checksumDigits
  have hdrop : a.checksumDigits.dropWhile Hex.isDigit = [] :=
    List.dropWhile_eq_nil_iff.mpr fun c => a.isDigit_of_mem_checksumDigits
  have hdecode : Hex.decode? a.checksumDigits = some a.bytes := by
    rw [Hex.decode?_congr a.map_digit?_checksumDigits, FixedBytes.hex, Hex.decode?_encode]
  have hread : readHex? a.checksum.toList = some (a.bytes, []) := by
    simp only [Address.checksum, String.toList_ofList, readHex?, htake, hdrop, hdecode,
      Bool.true_eq_false, and_false, if_false, Option.map_some]
  simp only [parse?, read?, readBytes?, hread, Option.bind_some, FixedBytes.ofList?_bytes,
    Option.map_some, if_true]

variable {n bits : ℕ}

/-- Decimal digits have no mark of a base. -/
theorem spanWhole?_digits (n : ℕ) :
    spanWhole? (Decimal.digits n) = some (Decimal.digits n, []) := by
  have hspan : spanSome? Char.isDigit (Decimal.digits n) = some (Decimal.digits n, []) :=
    spanSome?_eq_self Nat.toDigits_ne_nil fun c => Decimal.isDigit_of_mem_digits
  unfold spanWhole?
  split
  · rename_i mark rest hdigits
    have hmark : mark.isDigit = true :=
      Decimal.isDigit_of_mem_digits (n := n) (by rw [hdigits]; simp)
    rw [if_neg ?_, hspan]
    intro hletter
    simp only [List.mem_cons, List.not_mem_nil, or_false] at hletter
    rcases hletter with rfl | rfl | rfl | rfl | rfl | rfl <;> exact absurd hmark (by decide)
  · exact hspan

/-- A number without fraction, exponent and unit is the amount. -/
theorem amount?_whole {n : ℕ} (hn : n < 2 ^ 256) : amount? n [] 0 = some n := by
  have hscale : scale? n 0 = some n := by
    have hone : n * Nat.pow 10 0 = n := Nat.mul_one n
    rw [scale?, if_pos (by decide), hone]
    exact if_pos hn
  have hvalue : n + Decimal.value [] = n := Nat.add_zero n
  simp only [amount?, List.length_nil, hscale, Option.bind_eq_bind, Option.bind_some,
    hvalue, Int.toNat_zero, Nat.sub_self]
  exact if_pos hn

/-- The decimal digits of an amount are read for an unsigned type of at least as many bits. -/
theorem readUint?_decimal (bits : ℕ) (v : Uint256) :
    readUint? bits v.decimal.toList = if v.toNat < 2 ^ bits then some (v.toNat, []) else none := by
  have hwhole : spanWhole? v.decimal.toList = some (v.decimal.toList, []) := by
    rw [Uint256.decimal, String.toList_ofList]
    exact spanWhole?_digits v.toNat
  have hfraction : readFraction? [] = some ([], []) := rfl
  have hexponent : readExponent [] = (0, []) := rfl
  have hunit : readUnit? (skipInlineBlanks []) = some (0, []) := rfl
  have hplaces : ((0 : ℕ) : ℤ) + 0 = 0 := rfl
  simp only [readUint?, hwhole, hfraction, hexponent, hunit, String.ofList_toList,
    Uint256.parse?_decimal, Option.bind_eq_bind, Option.bind_some, hplaces, amount?_whole v.isLt]
  rfl

/-- The decimal text of an amount is read for an unsigned type of at least as many bits. -/
theorem parse?_uint (bits : ℕ) (v : Uint256) :
    parse? (.uint bits) v.decimal = if v.toNat < 2 ^ bits then some (.uint v bits) else none := by
  simp only [parse?, read?, readUint?_decimal]
  split
  · simp only [Option.map_some, Option.bind_some, if_true, BitVec.ofNat_toNat, BitVec.setWidth_eq]
  · rfl

/-- The value that a text stands for: a string is taken as it is, and for all other types the text
is a literal. -/
def valueOf? : Ty → String → Option Value
  | .string, s => some (.string s)
  | ty, s => parse? ty s

end Literal

namespace ResolvedArgument

/-- The text of an argument in another kind than a string is bare. -/
theorem parse?_string_text (a : ResolvedArgument) (hkind : ∀ s, a ≠ .string s) :
    Literal.parse? .string a.text = some (.string a.text) := by
  refine Literal.parse?_string ?_
  cases a with
  | address a =>
    rw [text, Address.checksum, String.toList_ofList, List.forall_mem_cons, List.forall_mem_cons]
    exact ⟨Hex.isBare_of_isDigit rfl, by decide,
      fun c hc => Hex.isBare_of_isDigit (a.isDigit_of_mem_checksumDigits hc)⟩
  | uint v =>
    rw [text, Uint256.decimal, String.toList_ofList]
    exact fun c => Decimal.isBare_of_mem_digits
  | string s => exact absurd rfl (hkind s)
  | bool b =>
    have hall : (bool b).text.toList.all (fun c => decide (IsBare c)) = true := by
      cases b <;> decide
    exact fun c hc => of_decide_eq_true (List.all_eq_true.mp hall c hc)

/-- The value of an argument is what its text stands for. -/
theorem toOption_coerce (name : String) (ty : Ty) (a : ResolvedArgument) :
    (a.coerce name ty).toOption = Literal.valueOf? ty a.text := by
  unfold coerce
  split
  · rfl
  · rename_i address
    exact (Literal.parse?_address address).symm
  · rename_i b
    cases b
    · exact (Literal.parse?_bool false).symm
    · exact (Literal.parse?_bool true).symm
  · rename_i bits v
    refine Eq.trans ?_ (Literal.parse?_uint bits v).symm
    split
    · rename_i hlt
      exact (if_pos hlt).symm
    · rename_i hlarge
      exact (if_neg hlarge).symm
  · rename_i hstring _ _ _
    have hliteral : Literal.valueOf? ty a.text = Literal.parse? ty a.text := by
      cases ty with
      | string => exact (parse?_string_text a fun s hs => hstring s rfl hs).symm
      | bool | address | function | bytes | fixedBytes | uint | int | array | fixedArray
        | tuple => rfl
    rw [hliteral]
    split
    · rename_i value hvalue
      exact hvalue.symm
    · rename_i hnone
      exact hnone.symm

/-- The value of an argument for a parameter is what its text stands for. -/
theorem coerceFor_eq_ok {p : Parameter} {a : ResolvedArgument} {value : Value} :
    a.coerceFor p = .ok value ↔
      p.resolve?.bind (fun ty => Literal.valueOf? ty a.text) = some value := by
  cases hty : p.resolve? with
  | none => simp [coerceFor, hty]
  | some ty =>
    rw [Option.bind_some, ← toOption_coerce p.name ty a, coerceFor, hty]
    simp only
    cases a.coerce p.name ty with
    | ok value' => simp [Except.toOption]
    | error e => simp [Except.toOption]

/-- The values of arguments are what their texts stand for. -/
theorem coerceAll_eq_ok_iff_text {parameters : List Parameter} {arguments : List ResolvedArgument}
    {values : List Value} : coerceAll parameters arguments = .ok values ↔
      parameters.length = (arguments.map text).length ∧
      List.Forall₂
        (fun x value => x.1.resolve?.bind (fun ty => Literal.valueOf? ty x.2) = some value)
        (parameters.zip (arguments.map text)) values := by
  simp only [coerceAll_eq_ok, coerceFor_eq_ok, List.length_map, List.zip_map_right,
    List.forall₂_map_left_iff, Prod.map, id]

end ResolvedArgument

variable {parameters : List Parameter} {arguments arguments' : List ResolvedArgument}

/-- Arguments of the same texts are encoded alike. -/
theorem toOption_encodeArguments_congr
    (htexts : arguments.map ResolvedArgument.text = arguments'.map ResolvedArgument.text)
    (parameters : List Parameter) :
    (encodeArguments parameters arguments).toOption =
      (encodeArguments parameters arguments').toOption := by
  have hok (data : List UInt8) : encodeArguments parameters arguments = .ok data ↔
      encodeArguments parameters arguments' = .ok data := by
    simp only [encodeArguments_eq_ok, ResolvedArgument.coerceAll_eq_ok_iff_text, htexts]
  exact Option.ext fun data => toOption_eq_some.trans ((hok data).trans toOption_eq_some.symm)

/-- The argument is the same, or the string that is its text: the checksummed address, the decimal
number or the word for the truth value. -/
inductive Retold : ResolvedArgument → ResolvedArgument → Prop
  | same (a : ResolvedArgument) : Retold a a
  | address (a : Address) : Retold (.address a) (.string a.checksum)
  | uint (v : Uint256) : Retold (.uint v) (.string (toString v.toNat))
  | bool (b : Bool) : Retold (.bool b) (.string (toString b))

/-- An argument keeps its text when it is retold. -/
theorem Retold.text_eq {a a' : ResolvedArgument} (hretold : Retold a a') : a.text = a'.text := by
  cases hretold with
  | same | address | uint => rfl
  | bool b => cases b <;> rfl

/-- Retold arguments have the same texts. -/
theorem map_text_of_retold (hretold : List.Forall₂ Retold arguments arguments') :
    arguments.map ResolvedArgument.text = arguments'.map ResolvedArgument.text := by
  induction hretold with
  | nil => rfl
  | cons hfirst _ ih => rw [List.map_cons, List.map_cons, hfirst.text_eq, ih]

/-- An amount is encoded as one word if it has at most the bits of the type, and so is its text. -/
theorem toOption_encodeArguments_uint {p : Parameter} {bits : ℕ} {a : ResolvedArgument}
    {v : Uint256} (hty : p.resolve? = some (.uint bits)) (htext : a.text = v.decimal) :
    (encodeArguments [p] [a]).toOption = if v.toNat < 2 ^ bits then some v.bytes else none := by
  have htypes : Parameter.resolveAll? [p] = some [.uint bits] :=
    resolveAll?_eq_some.mpr (List.Forall₂.cons hty List.Forall₂.nil)
  have hencode : Value.encode [.uint v bits] = v.bytes := by
    simp [Value.encode, Value.sequence, Value.parts, Value.part, Value.heads, Value.tails]
  have hfits : Value.fitEach [.uint bits] [.uint v bits] = true := by
    simp [Value.fitEach, Value.fits]
  have hcoerce (value : Value) : a.coerceFor p = .ok value ↔
      (if v.toNat < 2 ^ bits then some (Value.uint v bits) else none) = some value := by
    rw [ResolvedArgument.coerceFor_eq_ok, hty, Option.bind_some, htext, ← Literal.parse?_uint]
    rfl
  by_cases hlt : v.toNat < 2 ^ bits
  · have hvalues : ResolvedArgument.coerceAll [p] [a] = .ok [.uint v bits] := by
      have hvalue := (hcoerce (.uint v bits)).mpr (if_pos hlt)
      exact coerceAll_eq_ok.mpr ⟨rfl, List.Forall₂.cons hvalue List.Forall₂.nil⟩
    have hdata := encodeArguments_eq_ok.mpr ⟨_, _, htypes, hvalues, hfits, hencode.symm⟩
    rw [if_pos hlt, hdata]
    rfl
  · rw [if_neg hlt, Option.eq_none_iff_forall_ne_some]
    intro data hdata
    obtain ⟨_, values, -, hvalues, -⟩ := encodeArguments_eq_ok.mp (toOption_eq_some.mp hdata)
    obtain ⟨-, hvalues⟩ := coerceAll_eq_ok.mp hvalues
    obtain ⟨value, _, hvalue, -⟩ := List.forall₂_cons_left_iff.mp hvalues
    rw [hcoerce, if_neg hlt] at hvalue
    cases hvalue

/-- Constructors and calls encode arguments and their texts to the same bytes, or refuse both. An
amount is taken for an unsigned type if it has at most the bits of the type, and so is its decimal
text. -/
theorem encode_retold (hretold : List.Forall₂ Retold arguments arguments') :
    (∀ i : Interface,
      (i.encodeConstructor arguments).toOption = (i.encodeConstructor arguments').toOption) ∧
    (∀ f : Signature, (f.encodeCall arguments).toOption = (f.encodeCall arguments').toOption) ∧
    ∀ (p : Parameter) (bits : ℕ) (v : Uint256), p.resolve? = some (.uint bits) →
      (Interface.encodeConstructor ⟨some [p]⟩ [.uint v]).toOption =
          (if v.toNat < 2 ^ bits then some v.bytes else none) ∧
        (Interface.encodeConstructor ⟨some [p]⟩ [.string (toString v.toNat)]).toOption =
          if v.toNat < 2 ^ bits then some v.bytes else none := by
  have htexts := map_text_of_retold hretold
  refine ⟨fun i => ?_, fun f => ?_, fun p bits v hty => ⟨?_, ?_⟩⟩
  · cases hparameters : i.constructor? with
    | some parameters =>
      simpa only [Interface.encodeConstructor, hparameters] using
        toOption_encodeArguments_congr htexts parameters
    | none =>
      have hnil : arguments = [] ↔ arguments' = [] := by
        rw [← List.map_eq_nil_iff (f := ResolvedArgument.text), htexts, List.map_eq_nil_iff]
      simp only [Interface.encodeConstructor, hparameters, hnil]
      split <;> rfl
  · have hmap {ε : Type} (x : Except ε (List UInt8)) :
        (x.map (f.selector.bytes ++ ·)).toOption = x.toOption.map (f.selector.bytes ++ ·) := by
      cases x <;> rfl
    rw [Signature.encodeCall, Signature.encodeCall, hmap, hmap,
      toOption_encodeArguments_congr htexts]
  · exact toOption_encodeArguments_uint hty rfl
  · exact toOption_encodeArguments_uint hty rfl

/-- The parameter of eight bits takes eight bits. -/
theorem resolve?_uint8 : (Parameter.plain "uint8").resolve? = some (.uint 8) :=
  have hparse : TypeText.parse? "uint8" = some (.named "uint8" []) := rfl
  Parameter.resolve?_of_named hparse rfl

/-- An amount that fits, a truth value and an address are encoded as their texts are, and an amount
of nine bits is refused for eight bits in both forms. -/
theorem encode_retold_of_threeKinds :
    List.Forall₂ Retold [.uint 255, .bool true, .address (.repeating 7)]
        [.string "255", .string "true", .string (Address.repeating 7).checksum] ∧
      (∀ i : Interface,
        (i.encodeConstructor [.uint 255, .bool true, .address (.repeating 7)]).toOption =
          (i.encodeConstructor
            [.string "255", .string "true", .string (Address.repeating 7).checksum]).toOption) ∧
      (Parameter.plain "uint8").resolve? = some (.uint 8) ∧
      (Interface.encodeConstructor ⟨some [.plain "uint8"]⟩ [.uint 256]).toOption = none ∧
      (Interface.encodeConstructor ⟨some [.plain "uint8"]⟩ [.string "256"]).toOption = none := by
  have hretold : List.Forall₂ Retold [.uint 255, .bool true, .address (.repeating 7)]
      [.string "255", .string "true", .string (Address.repeating 7).checksum] :=
    .cons (.uint 255) (.cons (.bool true) (.cons (.address _) .nil))
  obtain ⟨hconstruct, -, huint⟩ := encode_retold hretold
  obtain ⟨hnumber, htext⟩ := huint (.plain "uint8") 8 256 resolve?_uint8
  exact ⟨hretold, hconstruct, resolve?_uint8, hnumber, htext⟩

end Rollout
