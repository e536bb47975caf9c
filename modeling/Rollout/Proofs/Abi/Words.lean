import Rollout.Abi.Call
import Rollout.Proofs.Abi.PlainSignature
import Rollout.Proofs.Outcome
import Mathlib.Algebra.Group.Nat.Defs

/-!
# Arguments of one word

Addresses and amounts take one word of 32 bytes each. They are the values of their parameters as
they stand, whatever their size, and their encoding is the sequence of their words.
-/

namespace Rollout

/-- Bytes as a number, the highest first. -/
def ofBigEndian (bytes : List UInt8) : Nat :=
  bytes.foldl (fun n byte => 256 * n + byte.toNat) 0

/-- The bytes of a number that they have room for give the number. -/
theorem ofBigEndian_bigEndian {count n : Nat} (hroom : n < 256 ^ count) :
    ofBigEndian (bigEndian count n) = n := by
  induction count generalizing n with
  | zero =>
    obtain rfl : n = 0 := by omega
    rfl
  | succ count ih =>
    have hhigh : n / 256 < 256 ^ count := Nat.div_lt_of_lt_mul (by rwa [Nat.pow_succ'] at hroom)
    have hlow : (UInt8.ofNat (n % 256)).toNat = n % 256 :=
      UInt8.toNat_ofNat_of_lt (Nat.mod_lt n (by decide))
    rw [ofBigEndian, bigEndian, List.foldl_append]
    change 256 * ofBigEndian (bigEndian count (n / 256)) + (UInt8.ofNat (n % 256)).toNat = n
    rw [ih hhigh, hlow]
    omega

/-- An argument that takes one word. -/
inductive WordArgument where
  | address (value : Address)
  | amount (value : Uint256)

namespace WordArgument

/-- The name of the type. -/
def typeName : WordArgument → String
  | address _ => "address"
  | amount _ => "uint256"

/-- The argument as it is given to a call. -/
def resolved : WordArgument → ResolvedArgument
  | address a => .address a
  | amount v => .uint v

/-- The word: an address with zeros in front, an amount from its highest byte on. -/
def word : WordArgument → List UInt8
  | address a => List.replicate 12 0 ++ a.bytes
  | amount v => bigEndian 32 v.toNat

/-- The value that is encoded. -/
def value : WordArgument → Value
  | address a => .address a
  | amount v => .uint v 256

/-- The type that is encoded. -/
def ty : WordArgument → Ty
  | address _ => .address
  | amount _ => .uint 256

variable (w : WordArgument)

theorem length_word : w.word.length = 32 := by
  cases w with
  | address a => simp [word, a.length_bytes]
  | amount v => exact length_bigEndian 32 v.toNat

/-- The name of the type is read as it is written. -/
theorem isWord_typeName : TypeText.IsWord w.typeName := by
  cases w with
  | address a =>
    change TypeText.IsWord "address"
    exact ⟨rfl, by decide, by decide⟩
  | amount v =>
    change TypeText.IsWord "uint256"
    exact ⟨rfl, by decide, by decide⟩

/-- A parameter of the type takes values of the type. -/
theorem resolve?_plain : (Parameter.plain w.typeName).resolve? = some w.ty := by
  have haddress : TypeText.parse? "address" = some (.named "address" []) := rfl
  have hamount : TypeText.parse? "uint256" = some (.named "uint256" []) := rfl
  rw [Parameter.plain, Parameter.resolve?]
  cases w with
  | address a => rw [typeName, haddress, Option.bind_some, TypeText.resolve?]; rfl
  | amount v => rw [typeName, hamount, Option.bind_some, TypeText.resolve?]; rfl

/-- An address is taken for an address, and every amount fits in 256 bits. -/
theorem coerceFor_plain : w.resolved.coerceFor (Parameter.plain w.typeName) = .ok w.value := by
  rw [ResolvedArgument.coerceFor, resolve?_plain]
  cases w with
  | address a => rfl
  | amount v => exact if_pos v.isLt

theorem fits_value : Value.fits w.ty w.value = true := by
  cases w with
  | address | amount => simp [ty, value, Value.fits]

/-- The word stands in the head of a sequence. -/
theorem part_value : w.value.part = ⟨false, w.word⟩ := by
  cases w with
  | address | amount => rfl

end WordArgument

open WordArgument

/-- Each argument is the value of its parameter. -/
theorem coerceAll_words (ws : List WordArgument) :
    ResolvedArgument.coerceAll (ws.map fun w => .plain w.typeName) (ws.map resolved) =
      .ok (ws.map value) := by
  rw [ResolvedArgument.coerceAll, if_pos (by simp), List.zip_map', mapM_eq_ok,
    List.forall₂_map_left_iff, List.forall₂_map_right_iff, List.forall₂_same]
  exact fun w _ => w.coerceFor_plain

/-- The types of the parameters exist. -/
theorem resolveAll?_words (ws : List WordArgument) :
    Parameter.resolveAll? (ws.map fun w => .plain w.typeName) = some (ws.map ty) := by
  induction ws with
  | nil => rfl
  | cons w ws ih => simp [Parameter.resolveAll?, resolve?_plain, ih]

/-- The values have the shapes of the types. -/
theorem fitEach_words (ws : List WordArgument) :
    Value.fitEach (ws.map ty) (ws.map value) = true := by
  induction ws with
  | nil => rfl
  | cons w ws ih => simp [Value.fitEach, fits_value, ih]

/-- The parts are the words, none of which belongs in a tail. -/
theorem parts_words (ws : List WordArgument) :
    Value.parts (ws.map value) = ws.map fun w => ⟨false, w.word⟩ := by
  induction ws with
  | nil => rfl
  | cons w ws ih => rw [List.map_cons, Value.parts, part_value, ih, List.map_cons]

/-- Heads that hold all there is stand one behind the other, wherever the tail begins. -/
theorem heads_words (offset : Nat) (ws : List WordArgument) :
    Value.heads offset (ws.map fun w => ⟨false, w.word⟩) = ws.flatMap word := by
  induction ws with
  | nil => rfl
  | cons w ws ih => simp [Value.heads, ih]

/-- The encoding of arguments of one word each is the sequence of their words. -/
theorem encodeArguments_words (ws : List WordArgument) :
    encodeArguments (ws.map fun w => .plain w.typeName) (ws.map resolved) =
      .ok (ws.flatMap word) := by
  have htails : Value.tails (ws.map fun w => ⟨false, w.word⟩) = [] := by
    simp [Value.tails]
  rw [encodeArguments, coerceAll_words, Except.bind, encodeValues, resolveAll?_words]
  simp only [fitEach_words, if_true]
  rw [Value.encode, parts_words, Value.sequence, heads_words, htails, List.append_nil]

end Rollout
