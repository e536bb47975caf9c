import Rollout.Json.Basic

/-!
# JSON documents

A sound document holds no number beyond the range of double precision. A number is brought to
double precision in steps: its leading digits are gathered as far as 64 bits hold them, the digits
left over only move the exponent, the gathered digits and the power of ten are each rounded to 53
bits, and their product is rounded again. A number near the bound is judged by this product and not
by its exact value.

Some documents are read as a whole before any part of them is used. All their strings must then be
readable and all their numbers in the range of double precision, and of several members with one
key the last one counts.
-/

namespace Rollout.Numeral

/-! ## Numbers out of range -/

/-- Gather digits behind a number as long as 64 bits hold it, and leave the others. -/
def gather : (gathered : Nat) → List Char → Nat × List Char
  | n, [] => (n, [])
  | n, c :: rest =>
    let next := 10 * n + Decimal.value [c]
    if next < Nat.pow 2 64 then gather next rest else (n, c :: rest)

/-- The digits of a number before and behind its point. -/
def parts (x : Numeral) : List Char × List Char :=
  let digits := Decimal.digits x.digits
  match x.places with
  | none => (digits, [])
  | some places =>
    let padded := List.replicate (places - digits.length) '0' ++ digits
    (padded.take (padded.length - places), padded.drop (padded.length - places))

/-- The gathered digits of a number, and the power of ten that they have to be multiplied by. Digits
left over before the point count as places, and digits left over behind it do not count. -/
def gathered (x : Numeral) : Nat × Int :=
  let (whole, fraction) := x.parts
  let (n, left) := gather 0 whole
  let (n, dropped) := gather n fraction
  (n, x.exponent.getD 0 + left.length - (fraction.length - dropped.length : Nat))

/-- The nearest number with 53 significant bits; a tie goes to the even one. -/
def round53 (n : Nat) : Nat :=
  let unit := Nat.pow 2 (n.log2 + 1 - 53)
  let quotient := n / unit
  let twice := 2 * (n % unit)
  if unit < twice ∨ (unit = twice ∧ quotient % 2 = 1) then (quotient + 1) * unit
  else quotient * unit

/-- The least number that rounds to a power beyond the range of double precision. -/
def doubleBound : Nat :=
  Nat.pow 2 1024 - Nat.pow 2 970

/-- The number leaves the range of double precision. The largest power of ten inside the range has
308 places. -/
def exceedsDouble (x : Numeral) : Bool :=
  let (n, exponent) := x.gathered
  if x.digits = 0 ∨ exponent < 0 then false
  else if 308 < exponent then true
  else doubleBound ≤ round53 n * round53 (Nat.pow 10 exponent.toNat)

end Rollout.Numeral

namespace Rollout.Json

/-! ## Sound documents -/

mutual

/-- Every string is readable and every number in range. -/
def isSound : Json → Bool
  | .null | .bool _ | .string _ => true
  | .number x => !x.exceedsDouble
  | .array items => areSound items
  | .object members => memberValuesSound members
  | .unreadable => false

/-- Every item is sound. -/
def areSound : List Json → Bool
  | [] => true
  | item :: items => isSound item && areSound items

/-- The value of every member is sound. -/
def memberValuesSound : List (String × Json) → Bool
  | [] => true
  | (_, item) :: members => isSound item && memberValuesSound members

end

/-- Put a member into a list that is sorted by key, in place of an earlier one with its key. -/
def insertMember (key : String) (value : Json) : List (String × Json) → List (String × Json)
  | [] => [(key, value)]
  | member :: members =>
    if key < member.1 then (key, value) :: member :: members
    else if key = member.1 then (key, value) :: members
    else member :: insertMember key value members

/-- The members sorted by key, each key with its last value. -/
def sortedMembers (members : List (String × Json)) : List (String × Json) :=
  members.foldl (fun sorted member => insertMember member.1 member.2 sorted) []

end Rollout.Json
