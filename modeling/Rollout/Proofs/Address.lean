import Mathlib.Data.List.Basic
import Rollout.Address

/-!
# Texts of addresses and byte strings

The checksum of an address is carried by the case of its letters alone, and a digit means the same
in either case. The checksummed text therefore reads back as the address.

A byte string is read from two digits for each of its bytes. The digits may be written in either
case, and a mark may stand in front of them.
-/

namespace Rollout

/-! ## Checksums -/

namespace Hex

/-- The bytes of a text depend only on what its digits mean. -/
theorem decode?_congr {text text' : List Char} (hsame : text.map digit? = text'.map digit?) :
    decode? text = decode? text' := by
  induction text using decode?.induct generalizing text' with
  | case1 =>
    obtain rfl := List.map_eq_nil_iff.mp hsame.symm
    rfl
  | case2 c =>
    obtain ⟨c', rest', rfl, -, hrest⟩ := List.map_eq_cons_iff.mp hsame.symm
    obtain rfl := List.map_eq_nil_iff.mp hrest
    rfl
  | case3 high low rest ih =>
    obtain ⟨high', tail, rfl, hhigh, htail⟩ := List.map_eq_cons_iff.mp hsame.symm
    obtain ⟨low', rest', rfl, hlow, hrest⟩ := List.map_eq_cons_iff.mp htail
    rw [decode?, decode?, hhigh, hlow, ih hrest.symm]

/-- A written digit means the same as a capital. -/
theorem digit?_toUpper_digitChar {n : Nat} (hn : n < 16) :
    digit? (Nat.digitChar n).toUpper = digit? (Nat.digitChar n) := by
  have hall : ∀ m : Fin 16,
      digit? (Nat.digitChar m).toUpper = digit? (Nat.digitChar m) := by decide
  exact hall ⟨n, hn⟩

end Hex

namespace Address

variable (a : Address)

/-- A hash has two half bytes for each of its 32 bytes. -/
theorem length_halfBytes (hash : Hash) : (halfBytes hash).length = 64 := by
  have hlength : (halfBytes hash).length = 2 * hash.bytes.length := by
    simp [halfBytes, List.length_flatMap, Nat.mul_comm]
  rw [hlength, hash.length_bytes]

/-- Raising letters changes no digit. -/
theorem map_digit?_checksumDigits : a.checksumDigits.map Hex.digit? = a.hex.map Hex.digit? := by
  have hmarks : a.hex.length ≤ (halfBytes (keccak256 (utf8 a.hex))).length := by
    rw [length_halfBytes, FixedBytes.length_hex]
    decide
  have hraised (c : Char) (hc : c ∈ a.hex) (mark : Nat) :
      Hex.digit? (if 8 ≤ mark then c.toUpper else c) = Hex.digit? c := by
    obtain ⟨n, hn, rfl⟩ := Hex.exists_digitChar_of_mem_encode hc
    split
    · exact Hex.digit?_toUpper_digitChar hn
    · rfl
  refine List.ext_getElem ?_ fun position _ _ => ?_
  · rw [List.length_map, List.length_map, checksumDigits, List.length_zipWith,
      Nat.min_eq_left hmarks]
  · rw [List.getElem_map, List.getElem_map]
    simp only [checksumDigits, List.getElem_zipWith]
    exact hraised _ (List.getElem_mem _) _

/-- The checksummed text reads back as the address. -/
theorem parse?_checksum : FixedBytes.parse? a.checksum = some a := by
  have hmark : Hex.dropMark a.checksum.toList = a.checksumDigits := by
    rw [checksum, String.toList_ofList]
    rfl
  rw [FixedBytes.parse?, hmark, Hex.decode?_congr a.map_digit?_checksumDigits, FixedBytes.hex,
    Hex.decode?_encode, Option.bind_some, FixedBytes.ofList?_bytes]

/-- Addresses with the same checksummed text are the same. -/
theorem checksum_injective : Function.Injective checksum := by
  intro a b hsame
  have hparse := a.parse?_checksum
  rw [hsame, b.parse?_checksum] at hparse
  exact (Option.some.inj hparse).symm

/-- All digits of the checksummed text are hexadecimal ones. -/
theorem isDigit_of_mem_checksumDigits {c : Char} (hc : c ∈ a.checksumDigits) :
    Hex.isDigit c = true := by
  have hmem : Hex.digit? c ∈ a.hex.map Hex.digit? :=
    a.map_digit?_checksumDigits ▸ List.mem_map_of_mem hc
  obtain ⟨d, hd, hsame⟩ := List.mem_map.mp hmem
  obtain ⟨n, hn, rfl⟩ := Hex.exists_digitChar_of_mem_encode hd
  rw [Hex.isDigit, ← hsame, Hex.digit?_digitChar hn]
  rfl

end Address

/-! ## Byte strings -/

namespace Hex

/-- A digit is a half byte. -/
theorem digit?_lt {c : Char} {d : ℕ} (h : digit? c = some d) : d < 16 := by
  unfold digit? at h
  split at h
  · rename_i hrange
    have hle : c.toNat ≤ '9'.toNat := hrange.2
    have hnine : '9'.toNat - '0'.toNat < 16 := by decide
    cases h
    omega
  · split at h
    · rename_i hrange
      have hle : c.toNat ≤ 'f'.toNat := hrange.2
      have hf : 'f'.toNat - 'a'.toNat < 6 := by decide
      cases h
      omega
    · split at h
      · rename_i hrange
        have hle : c.toNat ≤ 'F'.toNat := hrange.2
        have hf : 'F'.toNat - 'A'.toNat < 6 := by decide
        cases h
        omega
      · cases h

/-- All characters of a written text are digits. -/
theorem digit?_ne_none_of_mem_encode {bytes : List UInt8} {c : Char} (hc : c ∈ encode bytes) :
    digit? c ≠ none := by
  obtain ⟨n, hn, rfl⟩ := exists_digitChar_of_mem_encode hc
  rw [digit?_digitChar hn]
  exact Option.some_ne_none n

/-- Bytes are read from the digits that are written for them, in any case. -/
theorem decode?_eq_some {text : List Char} {bytes : List UInt8} :
    decode? text = some bytes ↔ text.map digit? = (encode bytes).map digit? := by
  constructor
  · intro h
    induction text using decode?.induct generalizing bytes with
    | case1 =>
      cases h
      rfl
    | case2 c => cases h
    | case3 high low rest ih =>
      simp only [decode?, Option.bind_eq_bind, Option.bind_eq_some_iff, Option.pure_def,
        Option.some.injEq] at h
      obtain ⟨d, hhigh, d', hlow, bytes, hrest, rfl⟩ := h
      have hd := digit?_lt hhigh
      have hd' := digit?_lt hlow
      have hbyte : (UInt8.ofNat (16 * d + d')).toNat = 16 * d + d' :=
        UInt8.toNat_ofNat_of_lt' (show 16 * d + d' < 256 by omega)
      have hdigits : (ofByte (UInt8.ofNat (16 * d + d'))).map digit? = [some d, some d'] := by
        have hquotient : (16 * d + d') / 16 = d := by omega
        have hremainder : (16 * d + d') % 16 = d' := by omega
        simp only [ofByte, hbyte, hquotient, hremainder, List.map_cons, List.map_nil,
          digit?_digitChar hd, digit?_digitChar hd']
      rw [encode_cons, List.map_append, hdigits, List.map_cons, List.map_cons, hhigh, hlow,
        ih hrest]
      rfl
  · intro h
    rw [decode?_congr h, decode?_encode]

end Hex

namespace FixedBytes

variable {n : ℕ}

/-- The text is one of the byte string: a mark, or none, and the digits in any case. -/
def IsText (x : FixedBytes n) (text : List Char) : Prop :=
  ∃ mark digits, mark ∈ [[], ['0', 'x'], ['0', 'X']] ∧ text = mark ++ digits ∧
    digits.map Hex.digit? = x.hex.map Hex.digit?

/-- The mark of a text can be dropped. -/
theorem dropMark_of_isText {x : FixedBytes n} {mark digits : List Char}
    (hmark : mark ∈ [[], ['0', 'x'], ['0', 'X']])
    (hdigits : digits.map Hex.digit? = x.hex.map Hex.digit?) :
    Hex.dropMark (mark ++ digits) = digits := by
  have hdigit : ∀ c ∈ digits, Hex.digit? c ≠ none := by
    intro c hc hnone
    have hmem : none ∈ x.hex.map Hex.digit? := hdigits ▸ List.mem_map.mpr ⟨c, hc, hnone⟩
    obtain ⟨c', hc', hnone'⟩ := List.mem_map.mp hmem
    exact Hex.digit?_ne_none_of_mem_encode hc' hnone'
  simp only [List.mem_cons, List.not_mem_nil, or_false] at hmark
  rcases hmark with rfl | rfl | rfl
  · rw [List.nil_append]
    unfold Hex.dropMark
    split
    · exact absurd rfl (hdigit 'x' (by simp))
    · exact absurd rfl (hdigit 'X' (by simp))
    · rfl
  · rfl
  · rfl

/-- A byte string is read from its texts and from nothing else. -/
theorem parse?_eq_some {s : String} {x : FixedBytes n} : parse? s = some x ↔ x.IsText s.toList := by
  have hread : parse? s = some x ↔
      (Hex.dropMark s.toList).map Hex.digit? = x.hex.map Hex.digit? := by
    rw [hex, ← Hex.decode?_eq_some, parse?, Option.bind_eq_some_iff]
    constructor
    · rintro ⟨bytes, hbytes, hx⟩
      unfold ofList? at hx
      split at hx
      · cases hx
        exact hbytes
      · cases hx
    · exact fun hbytes => ⟨x.bytes, hbytes, ofList?_bytes x⟩
  rw [hread]
  constructor
  · intro hdigits
    have hmark : ∃ mark ∈ [[], ['0', 'x'], ['0', 'X']],
        s.toList = mark ++ Hex.dropMark s.toList := by
      unfold Hex.dropMark
      split
      · exact ⟨['0', 'x'], by simp, by assumption⟩
      · exact ⟨['0', 'X'], by simp, by assumption⟩
      · exact ⟨[], by simp, rfl⟩
    obtain ⟨mark, hmark, htext⟩ := hmark
    exact ⟨mark, _, hmark, htext, hdigits⟩
  · rintro ⟨mark, digits, hmark, htext, hdigits⟩
    rw [htext, dropMark_of_isText hmark hdigits]
    exact hdigits

end FixedBytes

end Rollout
