import Rollout.Text.Quoted

/-!
# Numbers and bytes as text

Writing natural numbers in decimal, and reading the unsigned numerals of settings and flags. A
numeral is refused at its first offending character, which decides between a stray character and
a number that has grown too large.

Files, hashes and encoded arguments hold text in UTF-8. Reading back what was written gives the
same text.

Bytes are written as two lowercase digits each and read in either case. A text that spells no
bytes is refused for its odd length or else for its first stray byte.
-/

namespace Rollout.Decimal

/-! ## Decimal numerals -/

/-- The value of a decimal digit. -/
def digit? (c : Char) : Option Nat :=
  if c.isDigit then some (c.toNat - '0'.toNat) else none

/-- The decimal digits of a number, without leading zeros. -/
def digits (n : Nat) : List Char :=
  Nat.toDigits 10 n

/-- The number written by a list of decimal digits, any other character counting as zero. -/
def value (text : List Char) : Nat :=
  text.foldl (fun n c => 10 * n + (digit? c).getD 0) 0

/-- Why a numeral is refused. -/
inductive Refusal where
  | noDigits
  | strayCharacter
  | tooLarge
  deriving DecidableEq, Repr

/-- The wording of a refusal. -/
def Refusal.message : Refusal → String
  | .noDigits => "cannot parse integer from empty string"
  | .strayCharacter => "invalid digit found in string"
  | .tooLarge => "number too large to fit in target type"

/-- Append one digit to a numeral that must stay below `bound`. -/
def push (bound n : Nat) (c : Char) : Except Refusal Nat :=
  match digit? c with
  | none => .error .strayCharacter
  | some d => if 10 * n + d < bound then .ok (10 * n + d) else .error .tooLarge

/-- Read a numeral below `bound`: a plus sign may come first, and one digit at least is needed. -/
def readBelow (bound : Nat) (text : List Char) : Except Refusal Nat :=
  match text with
  | [] => .error .noDigits
  | ['+'] => .error .strayCharacter
  | '+' :: rest => rest.foldlM (push bound) 0
  | _ => text.foldlM (push bound) 0

/-- Read an unsigned number of 64 bits. -/
def readUInt64 (text : List Char) : Except Refusal UInt64 :=
  (readBelow (Nat.pow 2 64) text).map UInt64.ofNat

end Rollout.Decimal

namespace Rollout

/-! ## Text as bytes -/

/-- The UTF-8 bytes of a text. -/
def utf8 (text : List Char) : List UInt8 :=
  text.flatMap String.utf8EncodeChar

/-- The text that the bytes spell, if they are valid UTF-8. -/
def ofUtf8? (bytes : List UInt8) : Option String :=
  String.fromUTF8? bytes.toByteArray

/-- The bytes of a text are those of its first character and of the rest. -/
theorem utf8_cons (c : Char) (text : List Char) :
    utf8 (c :: text) = String.utf8EncodeChar c ++ utf8 text :=
  List.flatMap_cons

/-- The bytes of joined texts are the joined bytes. -/
theorem utf8_append (text text' : List Char) : utf8 (text ++ text') = utf8 text ++ utf8 text' :=
  List.flatMap_append

/-- Written text reads back. -/
theorem ofUtf8?_utf8 (s : String) : ofUtf8? (utf8 s.toList) = some s := by
  have stored : (utf8 s.toList).toByteArray = s.toByteArray := s.utf8Encode_toList
  unfold ofUtf8?
  rw [stored, String.fromUTF8?, dif_pos s.isValidUTF8]
  rfl

end Rollout

namespace Rollout.Hex

/-! ## Hexadecimal text -/

/-- The value of a hexadecimal digit of either case. -/
def digit? (c : Char) : Option Nat :=
  if '0' ≤ c ∧ c ≤ '9' then some (c.toNat - '0'.toNat)
  else if 'a' ≤ c ∧ c ≤ 'f' then some (c.toNat - 'a'.toNat + 10)
  else if 'A' ≤ c ∧ c ≤ 'F' then some (c.toNat - 'A'.toNat + 10)
  else none

/-- The character is a hexadecimal digit of either case. -/
def isDigit (c : Char) : Bool :=
  (digit? c).isSome

/-- The lowercase digits of a number, without leading zeros. -/
def ofNat (n : Nat) : List Char :=
  Nat.toDigits 16 n

/-- The number written by a list of digits, any other character counting as zero. -/
def value (text : List Char) : Nat :=
  text.foldl (fun n c => 16 * n + (digit? c).getD 0) 0

/-- The two digits of one byte, the high half first. -/
def ofByte (byte : UInt8) : List Char :=
  [Nat.digitChar (byte.toNat / 16), Nat.digitChar (byte.toNat % 16)]

/-- Two digits for each byte, in order. -/
def encode (bytes : List UInt8) : List Char :=
  bytes.flatMap ofByte

/-- The bytes written by pairs of digits; an odd digit or any other character is refused. -/
def decode? : List Char → Option (List UInt8)
  | [] => some []
  | [_] => none
  | high :: low :: rest => do
    let h ← digit? high
    let l ← digit? low
    let bytes ← decode? rest
    return UInt8.ofNat (16 * h + l) :: bytes

/-- Why a text spells no bytes. -/
inductive Refusal where
  | oddLength
  /-- The byte at `position` of the text's UTF-8 form is no digit. -/
  | strayByte (byte : UInt8) (position : Nat)
  deriving DecidableEq, Repr

/-- The wording of a refusal. -/
def Refusal.message : Refusal → String
  | .oddLength => "Odd number of digits"
  | .strayByte byte position =>
    let character := Quoted.char (Char.ofNat byte.toNat)
    s!"Invalid character {character} at position {position}"

/-- The fault of a text that spells no bytes: its length in UTF-8 is judged first. -/
def fault (text : List Char) : Refusal :=
  let bytes := utf8 text
  let position := bytes.findIdx fun byte => !isDigit (Char.ofNat byte.toNat)
  if bytes.length % 2 = 1 then .oddLength else .strayByte (bytes.getD position 0) position

/-- The bytes written by a text, or the reason why there are none. -/
def decode (text : List Char) : Except Refusal (List UInt8) :=
  match decode? text with
  | some bytes => .ok bytes
  | none => .error (fault text)

/-- The text without one leading `0x` or `0X`. -/
def dropMark : List Char → List Char
  | '0' :: 'x' :: rest => rest
  | '0' :: 'X' :: rest => rest
  | text => text

@[simp]
theorem encode_nil : encode [] = [] := rfl

@[simp]
theorem encode_cons (byte : UInt8) (bytes : List UInt8) :
    encode (byte :: bytes) = ofByte byte ++ encode bytes := rfl

/-- Every byte takes two characters. -/
@[simp]
theorem length_encode (bytes : List UInt8) : (encode bytes).length = 2 * bytes.length := by
  induction bytes with
  | nil => rfl
  | cons byte bytes ih => simp [ofByte, ih]; omega

/-- The code points of a digit. -/
theorem range_of_isDigit {c : Char} (h : isDigit c) :
    48 ≤ c.toNat ∧ c.toNat ≤ 57 ∨ 97 ≤ c.toNat ∧ c.toNat ≤ 102 ∨
      65 ≤ c.toNat ∧ c.toNat ≤ 70 := by
  unfold isDigit digit? at h
  split at h
  · rename_i hrange
    exact Or.inl hrange
  · split at h
    · rename_i hrange
      exact Or.inr (Or.inl hrange)
    · split at h
      · rename_i hrange
        exact Or.inr (Or.inr hrange)
      · cases h

/-- A written digit reads back as its value. -/
theorem digit?_digitChar {n : Nat} (h : n < 16) : digit? (Nat.digitChar n) = some n := by
  have all : ∀ m : Fin 16, digit? (Nat.digitChar m) = some m.val := by decide
  exact all ⟨n, h⟩

/-- What is written for bytes are digits of half bytes. -/
theorem exists_digitChar_of_mem_encode {bytes : List UInt8} {c : Char} (hc : c ∈ encode bytes) :
    ∃ n < 16, c = Nat.digitChar n := by
  obtain ⟨byte, -, hbyte⟩ := List.mem_flatMap.mp hc
  have hlt := byte.toNat_lt
  simp only [ofByte, List.mem_cons, List.not_mem_nil, or_false] at hbyte
  rcases hbyte with rfl | rfl
  · exact ⟨byte.toNat / 16, by omega, rfl⟩
  · exact ⟨byte.toNat % 16, by omega, rfl⟩

/-- Written bytes read back as the same bytes. -/
theorem decode?_encode (bytes : List UInt8) : decode? (encode bytes) = some bytes := by
  induction bytes with
  | nil => rfl
  | cons byte bytes ih =>
    have high : byte.toNat / 16 < 16 := by have := byte.toNat_lt; omega
    have low : byte.toNat % 16 < 16 := Nat.mod_lt _ (by decide)
    have whole : 16 * (byte.toNat / 16) + byte.toNat % 16 = byte.toNat := Nat.div_add_mod _ _
    simp only [encode_cons, ofByte, List.cons_append, List.nil_append, decode?,
      digit?_digitChar high, digit?_digitChar low, ih, Option.bind_eq_bind, Option.bind_some,
      Option.pure_def, whole, UInt8.ofNat_toNat]

end Rollout.Hex
