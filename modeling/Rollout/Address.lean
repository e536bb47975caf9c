import Rollout.Text.Numerals

/-!
# Byte strings, hashes and addresses

Addresses and hashes are byte strings whose length is part of their type. Their text is
hexadecimal, and what is written reads back.

The hash of addresses, selectors and library names: a sponge over twenty-five lanes of 64 bits
that takes in 136 bytes between two permutations.

An address has twenty bytes. Its checksummed text raises each letter whose place in the hash of
the lowercase digits holds eight or more; a bank names a token by the lowercase text.
-/

namespace Rollout

/-! ## Byte strings of a fixed length -/

/-- A string of exactly `n` bytes. -/
structure FixedBytes (n : Nat) where
  /-- The bytes, the first one first. -/
  bytes : List UInt8
  /-- There are `n` of them. -/
  length_bytes : bytes.length = n
  deriving DecidableEq

namespace FixedBytes

variable {n : Nat}

/-- Take a list of bytes that has the right length. -/
def ofList? (bytes : List UInt8) : Option (FixedBytes n) :=
  if h : bytes.length = n then some ⟨bytes, h⟩ else none

/-- The same byte `n` times. -/
def replicate (n : Nat) (byte : UInt8) : FixedBytes n :=
  ⟨List.replicate n byte, List.length_replicate⟩

instance : Inhabited (FixedBytes n) := ⟨replicate n 0⟩

/-- The lowercase digits, without a mark in front. -/
def hex (x : FixedBytes n) : List Char :=
  Hex.encode x.bytes

/-- The lowercase text with its mark. -/
def text (x : FixedBytes n) : String :=
  String.ofList ('0' :: 'x' :: x.hex)

instance : ToString (FixedBytes n) := ⟨text⟩

/-- Read the digits of exactly `n` bytes, in either case, with or without the mark. -/
def parse? (s : String) : Option (FixedBytes n) :=
  (Hex.decode? (Hex.dropMark s.toList)).bind ofList?

@[simp]
theorem ofList?_bytes (x : FixedBytes n) : ofList? x.bytes = some x := by
  simp [ofList?, x.length_bytes]

/-- The text takes two digits for each byte. -/
@[simp]
theorem length_hex (x : FixedBytes n) : x.hex.length = 2 * n := by
  simp [hex, x.length_bytes]

/-- Written bytes read back. -/
theorem parse?_text (x : FixedBytes n) : parse? x.text = some x := by
  simp [parse?, text, hex, Hex.dropMark, Hex.decode?_encode]

end FixedBytes

/-! ## Keccak-256 -/

/-- A hash of 32 bytes. -/
abbrev Hash := FixedBytes 32

namespace Keccak

/-- The lanes, the one at column `x` and row `y` standing at `x + 5 * y`. -/
abbrev Lanes := Vector UInt64 25

/-- The lane at a column and a row, both counted modulo five. -/
def lane (a : Lanes) (x y : Nat) : UInt64 :=
  a.get ⟨x % 5 + 5 * (y % 5), by omega⟩

/-- Build the lanes from their columns and rows. -/
def build (f : Nat → Nat → UInt64) : Lanes :=
  Vector.ofFn fun i => f (i.val % 5) (i.val / 5)

/-- Rotate a lane to the left. -/
def rotate (w : UInt64) (k : Nat) : UInt64 :=
  if k % 64 = 0 then w
  else (w <<< UInt64.ofNat (k % 64)) ||| (w >>> UInt64.ofNat (64 - k % 64))

/-- How far each lane turns, in the order of the lanes. -/
def turns : Vector Nat 25 :=
  #v[0, 1, 62, 28, 27, 36, 44, 6, 55, 20, 3, 10, 43, 25, 39, 41, 45, 15, 21, 8, 18, 2, 61, 56, 14]

/-- The constant of each round. -/
def constants : List UInt64 :=
  [0x0000000000000001, 0x0000000000008082, 0x800000000000808a, 0x8000000080008000,
    0x000000000000808b, 0x0000000080000001, 0x8000000080008081, 0x8000000000008009,
    0x000000000000008a, 0x0000000000000088, 0x0000000080008009, 0x000000008000000a,
    0x000000008000808b, 0x800000000000008b, 0x8000000000008089, 0x8000000000008003,
    0x8000000000008002, 0x8000000000000080, 0x000000000000800a, 0x800000008000000a,
    0x8000000080008081, 0x8000000000008080, 0x0000000080000001, 0x8000000080008008]

/-- Mix each column with the two beside it. -/
def mixColumns (a : Lanes) : Lanes :=
  let parity := Vector.ofFn fun x : Fin 5 =>
    lane a x 0 ^^^ lane a x 1 ^^^ lane a x 2 ^^^ lane a x 3 ^^^ lane a x 4
  let column (x : Nat) : UInt64 := parity.get ⟨x % 5, Nat.mod_lt _ (by decide)⟩
  build fun x y => lane a x y ^^^ column (x + 4) ^^^ rotate (column (x + 1)) 1

/-- Turn every lane and move it to its new place. -/
def turnAndMove (a : Lanes) : Lanes :=
  let turned := Vector.ofFn fun i : Fin 25 => rotate a[i] turns[i]
  build fun x y => lane turned (x + 3 * y) x

/-- Combine each lane with the next two of its row. -/
def combineRows (a : Lanes) : Lanes :=
  build fun x y => lane a x y ^^^ (~~~lane a (x + 1) y &&& lane a (x + 2) y)

/-- One round with its constant. -/
def round (a : Lanes) (constant : UInt64) : Lanes :=
  let b := combineRows (turnAndMove (mixColumns a))
  b.set 0 (b[0] ^^^ constant)

/-- All twenty-four rounds. -/
def permute (a : Lanes) : Lanes :=
  constants.foldl round a

/-- How many bytes are taken in between two permutations. -/
def rate : Nat := 136

/-- The number that eight bytes spell, the lowest byte first. -/
def word (bytes : List UInt8) : UInt64 :=
  bytes.foldr (fun byte w => (w <<< 8) ||| byte.toUInt64) 0

/-- The eight bytes of a lane, the lowest first. -/
def wordBytes (w : UInt64) : List UInt8 :=
  (List.range 8).map fun i => (w >>> UInt64.ofNat (8 * i)).toUInt8

/-- Take in one block. -/
def absorb (a : Lanes) (block : List UInt8) : Lanes :=
  permute (Vector.ofFn fun i : Fin 25 => a[i] ^^^ word ((block.drop (8 * i.val)).take 8))

/-- The message with the closing bits that fill its last block. -/
def pad (message : List UInt8) : List UInt8 :=
  let gap := rate - message.length % rate
  if gap = 1 then message ++ [0x81]
  else message ++ 0x01 :: List.replicate (gap - 2) 0 ++ [0x80]

/-- The blocks of a padded message. -/
def blocks (message : List UInt8) : List (List UInt8) :=
  (List.range (message.length / rate)).map fun i => (message.drop (rate * i)).take rate

end Keccak

open Keccak in
/-- The Keccak-256 hash of a message. -/
def keccak256 (message : List UInt8) : Hash :=
  let a := (blocks (pad message)).foldl absorb (Vector.replicate 25 0)
  ⟨wordBytes a[0] ++ wordBytes a[1] ++ wordBytes a[2] ++ wordBytes a[3], by simp [wordBytes]⟩

/-! ## Account addresses -/

/-- The address of an account or a contract. -/
abbrev Address := FixedBytes 20

namespace Address

/-- The half bytes of a hash, the high half of each byte first. -/
def halfBytes (hash : Hash) : List Nat :=
  hash.bytes.flatMap fun byte => [byte.toNat / 16, byte.toNat % 16]

/-- The digits with the letters raised that the hash of the digits selects. -/
def checksumDigits (a : Address) : List Char :=
  List.zipWith (fun c mark => if 8 ≤ mark then c.toUpper else c) a.hex
    (halfBytes (keccak256 (utf8 a.hex)))

/-- The checksummed text of an address. -/
def checksum (a : Address) : String :=
  String.ofList ('0' :: 'x' :: a.checksumDigits)

/-- The name under which a bank holds a token. -/
def bankDenomination (token : Address) : String :=
  token.text

/-- The address whose bytes are all `byte`. -/
def repeating (byte : UInt8) : Address :=
  FixedBytes.replicate 20 byte

end Address

end Rollout
