import Rollout.Address
import Rollout.Uint256

/-!
# Signing keys

The curve of points with `y² = x³ + 7` over a prime field, whose base point generates the group
that signing keys multiply. Points are kept in projective form, so that only the last step divides.

A signing key is a number in the range of the curve's group, written as 32 bytes. The address of
its owner is the end of the hash of the public point.
-/

namespace Rollout.Curve

/-! ## The curve -/

/-- The prime of the coordinate field. -/
def fieldPrime : Nat :=
  0xfffffffffffffffffffffffffffffffffffffffffffffffffffffffefffffc2f

/-- The number of points in the group. -/
def groupOrder : Nat :=
  0xfffffffffffffffffffffffffffffffebaaedce6af48a03bbfd25e8cd0364141

/-- A point `(x / z², y / z³)`; the neutral point has `z = 0`. -/
structure Point where
  x : Nat
  y : Nat
  z : Nat

/-- The neutral point. -/
def neutral : Point := ⟨1, 1, 0⟩

/-- The base point of the group. -/
def basePoint : Point where
  x := 0x79be667ef9dcbbac55a06295ce870b07029bfcdb2dce28d959f2815b16f81798
  y := 0x483ada7726a3c4655da4fbfc0e1108a8fd17b448a68554199c47d08ffb10d4b8
  z := 1

/-- Difference of two field elements. -/
def sub (a b : Nat) : Nat :=
  (a + (fieldPrime - b % fieldPrime)) % fieldPrime

/-- A point added to itself. -/
def double (p : Point) : Point :=
  let square := p.y * p.y % fieldPrime
  let s := 4 * p.x * square % fieldPrime
  let m := 3 * p.x * p.x % fieldPrime
  let x := sub (m * m) (2 * s)
  { x, y := sub (m * sub s x) (8 * square * square), z := 2 * p.y * p.z % fieldPrime }

/-- The sum of two points. -/
def add (p q : Point) : Point :=
  if p.z = 0 then q
  else if q.z = 0 then p
  else
    let pz := p.z * p.z % fieldPrime
    let qz := q.z * q.z % fieldPrime
    let u := p.x * qz % fieldPrime
    let s := p.y * qz * q.z % fieldPrime
    let h := sub (q.x * pz) u
    let r := sub (q.y * pz * p.z) s
    if h = 0 then if r = 0 then double p else neutral
    else
      let h2 := h * h % fieldPrime
      let h3 := h * h2 % fieldPrime
      let v := u * h2 % fieldPrime
      let x := sub (r * r) (h3 + 2 * v)
      { x, y := sub (r * sub v x) (s * h3), z := h * p.z * q.z % fieldPrime }

/-- The base point added to itself `k` times, for `k` below `2 ^ 256`, from the highest bit down. -/
def multiple (k : Nat) : Point :=
  (List.range 256).foldl
    (fun p i => if k.testBit (255 - i) then add (double p) basePoint else double p) neutral

/-- The power of a field element with an exponent of at most 256 bits. -/
def power (a e : Nat) : Nat :=
  (List.range 256).foldl
    (fun r i =>
      let r := r * r % fieldPrime
      if e.testBit (255 - i) then r * a % fieldPrime else r) 1

/-- The two coordinates of a point that is not neutral. -/
def affine (p : Point) : Nat × Nat :=
  let inverse := power p.z (fieldPrime - 2)
  let square := inverse * inverse % fieldPrime
  (p.x * square % fieldPrime, p.y * square * inverse % fieldPrime)

end Rollout.Curve

namespace Rollout

/-! ## Keys -/

/-- A secret number that is not zero and below the order of the group. -/
structure SigningKey where
  secret : Nat
  secret_pos : 0 < secret
  secret_lt : secret < Curve.groupOrder

namespace SigningKey

/-- Read a key of exactly 64 digits, with or without the mark. -/
def parse? (s : String) : Option SigningKey :=
  (FixedBytes.parse? (n := 32) s).bind fun bytes =>
    let secret := Hex.value bytes.hex
    if h : 0 < secret ∧ secret < Curve.groupOrder then some ⟨secret, h.1, h.2⟩ else none

/-- The address of the key's owner. -/
def address (key : SigningKey) : Address :=
  let (x, y) := Curve.affine (Curve.multiple key.secret)
  let hash := keccak256 (bigEndian 32 x ++ bigEndian 32 y)
  ⟨hash.bytes.drop 12, by simp [hash.length_bytes]⟩

end SigningKey

end Rollout
