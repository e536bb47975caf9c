import Rollout.Abi.Ty
import Rollout.Address
import Rollout.Uint256

/-!
# Encoded values

A value is encoded as a part: values of a fixed size stand in the head of the sequence they belong
to, all others stand in its tail behind an offset in the head.
-/

namespace Rollout

/-- A value that a contract takes. -/
inductive Value where
  | bool (value : Bool)
  | address (value : Address)
  /-- An address followed by a selector. -/
  | function (content : List UInt8)
  | string (value : String)
  | bytes (content : List UInt8)
  | fixedBytes (content : List UInt8)
  | uint (value : Uint256) (bits : Nat)
  /-- A number in two's complement of 256 bits. -/
  | int (value : Uint256) (bits : Nat)
  | array (items : List Value)
  | fixedArray (items : List Value)
  | tuple (items : List Value)

namespace Value

mutual

/-- The value has the shape of the type: its widths, its lengths and those of all its items. -/
def fits : Ty → Value → Bool
  | .bool, .bool _ => true
  | .address, .address _ => true
  | .function, .function content => content.length = 24
  | .string, .string _ => true
  | .bytes, .bytes _ => true
  | .fixedBytes length, .fixedBytes content => content.length = length
  | .uint bits, .uint _ bits' => bits = bits'
  | .int bits, .int _ bits' => bits = bits'
  | .array item, .array items => items.all fun value => fits item value
  | .fixedArray item length, .fixedArray items =>
    items.length = length && items.all fun value => fits item value
  | .tuple tys, .tuple values => fitEach tys values
  | _, _ => false

/-- The values have the shapes of the types, one for one. -/
def fitEach : List Ty → List Value → Bool
  | [], [] => true
  | ty :: tys, value :: values => fits ty value && fitEach tys values
  | _, _ => false

end

/-- A value ready to be placed in a sequence. -/
structure Part where
  /-- The bytes belong in the tail. -/
  isDynamic : Bool
  bytes : List UInt8

/-- The number of bytes that a part takes in the head. -/
def Part.headSize (p : Part) : Nat :=
  if p.isDynamic then 32 else p.bytes.length

/-- The number of bytes that all heads of a sequence take. -/
def headsSize : List Part → Nat
  | [] => 0
  | p :: ps => p.headSize + headsSize ps

/-- The heads of a sequence whose tail has come to an offset. -/
def heads : (offset : Nat) → List Part → List UInt8
  | _, [] => []
  | offset, p :: ps =>
    if p.isDynamic then bigEndian 32 offset ++ heads (offset + p.bytes.length) ps
    else p.bytes ++ heads offset ps

/-- The tail of a sequence. -/
def tails (ps : List Part) : List UInt8 :=
  ps.flatMap fun p => if p.isDynamic then p.bytes else []

/-- A sequence: all heads, then all tails. -/
def sequence (ps : List Part) : List UInt8 :=
  heads (headsSize ps) ps ++ tails ps

/-- Bytes with zeros behind them up to a multiple of 32. -/
def padRight (bytes : List UInt8) : List UInt8 :=
  bytes ++ List.replicate ((32 - bytes.length % 32) % 32) 0

/-- Bytes behind their number. -/
def counted (bytes : List UInt8) : List UInt8 :=
  bigEndian 32 bytes.length ++ padRight bytes

mutual

/-- The encoded form of a value. -/
def part : Value → Part
  | .bool b => ⟨false, bigEndian 32 b.toNat⟩
  | .address a => ⟨false, List.replicate 12 0 ++ a.bytes⟩
  | .function content => ⟨false, padRight content⟩
  | .string s => ⟨true, counted (utf8 s.toList)⟩
  | .bytes content => ⟨true, counted content⟩
  | .fixedBytes content => ⟨false, padRight content⟩
  | .uint v _ => ⟨false, v.bytes⟩
  | .int v _ => ⟨false, v.bytes⟩
  | .array items => ⟨true, bigEndian 32 items.length ++ sequence (parts items)⟩
  | .fixedArray items => ⟨(parts items).any Part.isDynamic, sequence (parts items)⟩
  | .tuple items => ⟨(parts items).any Part.isDynamic, sequence (parts items)⟩

/-- The encoded forms of several values. -/
def parts : List Value → List Part
  | [] => []
  | value :: values => part value :: parts values

end

/-- The encoding of a list of arguments. -/
def encode (values : List Value) : List UInt8 :=
  sequence (parts values)

end Value

end Rollout
