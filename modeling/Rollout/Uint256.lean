import Rollout.Text.Numerals

/-!
# Integers of 256 bits

Amounts are words of 256 bits. They are read from text in four bases and written in decimal or in
hexadecimal.
-/

namespace Rollout

/-- An unsigned integer of 256 bits. -/
abbrev Uint256 := BitVec 256

namespace Uint256

/-- Take a number that fits in 256 bits. -/
def ofNat? (n : Nat) : Option Uint256 :=
  if n < Nat.pow 2 256 then some (BitVec.ofNat 256 n) else none

/-- The base that a text selects by its first two characters, and the digits after them. -/
def base : List Char → Nat × List Char
  | '0' :: 'x' :: digits | '0' :: 'X' :: digits => (16, digits)
  | '0' :: 'o' :: digits | '0' :: 'O' :: digits => (8, digits)
  | '0' :: 'b' :: digits | '0' :: 'B' :: digits => (2, digits)
  | digits => (10, digits)

/-- Append one digit, which must exist in the base. -/
def push (b n : Nat) (c : Char) : Option Nat :=
  (Hex.digit? c).bind fun d => if d < b then some (b * n + d) else none

/-- Read a number, with underscores anywhere among its digits; no digit at all is zero. -/
def parse? (s : String) : Option Uint256 :=
  let (b, digits) := base s.toList
  ((digits.filter (· ≠ '_')).foldlM (push b) 0).bind ofNat?

/-- The decimal text. -/
def decimal (v : Uint256) : String :=
  String.ofList (Decimal.digits v.toNat)

/-- The shortest hexadecimal text, with its mark. -/
def hex (v : Uint256) : String :=
  String.ofList ('0' :: 'x' :: Hex.ofNat v.toNat)

end Uint256

/-- The last `count` bytes of a number, the highest first. -/
def bigEndian : (count : Nat) → Nat → List UInt8
  | 0, _ => []
  | count + 1, n => bigEndian count (n / 256) ++ [UInt8.ofNat (n % 256)]

/-- The number of bytes is the one asked for. -/
@[simp]
theorem length_bigEndian (count n : Nat) : (bigEndian count n).length = count := by
  induction count generalizing n with
  | zero => rfl
  | succ count ih => simp [bigEndian, ih]

/-- The 32 bytes of a word, the highest first. -/
def Uint256.bytes (v : Uint256) : List UInt8 :=
  bigEndian 32 v.toNat

end Rollout
