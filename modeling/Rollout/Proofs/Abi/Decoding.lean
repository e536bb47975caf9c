import Mathlib.Algebra.Ring.Nat
import Rollout.Proofs.Abi.Words

/-!
# Decoding

The standard decoding of contract values walks through the heads of a sequence. A value of a fixed
size is read where its head stands; any other one is read where the offset in its head points to.
Numbers are taken as the words that they are, whatever the bits of their types; all other values
must be padded with zeros. What is encoded decodes to the same values, as long as all offsets and
all lengths fit in a word.
-/

namespace Rollout

namespace Value

/-- The value is the other one or stands inside it. -/
inductive Within (inner : Value) : Value → Prop
  | refl : Within inner inner
  | array {item : Value} {items : List Value} (hitem : item ∈ items) (hinner : Within inner item) :
    Within inner (.array items)
  | fixedArray {item : Value} {items : List Value} (hitem : item ∈ items)
    (hinner : Within inner item) : Within inner (.fixedArray items)
  | tuple {item : Value} {items : List Value} (hitem : item ∈ items) (hinner : Within inner item) :
    Within inner (.tuple items)

/-- The word at the front of the data. -/
def word? (data : List UInt8) : Option Nat :=
  if 32 ≤ data.length then some (ofBigEndian (data.take 32)) else none

/-- The first bytes of the data, if zeros follow them up to a multiple of 32. -/
def padded? (length : Nat) (data : List UInt8) : Option (List UInt8) :=
  let size := 32 * ((length + 31) / 32)
  if size ≤ data.length ∧ ((data.take size).drop length).all (· = 0) then some (data.take length)
  else none

/-- The bytes behind their number. -/
def counted? (data : List UInt8) : Option (List UInt8) :=
  (word? data).bind fun length => padded? length (data.drop 32)

/-- The truth value of a word. -/
def bool? : Nat → Option Bool
  | 0 => some false
  | 1 => some true
  | _ => none

/-- The address behind twelve zeros. -/
def address? (data : List UInt8) : Option Address :=
  if (data.take 12).all (· = 0) then FixedBytes.ofList? ((data.drop 12).take 20) else none

/-- How the values of a type are read in a sequence. -/
structure ItemReader where
  /-- The value whose bytes begin the data. -/
  read : List UInt8 → Option Value
  /-- The head holds an offset. -/
  isDynamic : Bool
  /-- The number of bytes that the head takes. -/
  headSize : Nat

/-- The data of an item whose head stands at a position of a sequence. -/
def ItemReader.locate? (r : ItemReader) (frame : List UInt8) (position : Nat) :
    Option (List UInt8) :=
  if r.isDynamic then (word? (frame.drop position)).map frame.drop else some (frame.drop position)

/-- The items of a sequence whose heads begin at a position. -/
def readSequence? : List ItemReader → (frame : List UInt8) → (position : Nat) → Option (List Value)
  | [], _, _ => some []
  | r :: rs, frame, position => do
    let data ← r.locate? frame position
    let value ← r.read data
    let values ← readSequence? rs frame (position + r.headSize)
    return value :: values

/-- The reader of a value whose bytes stand in the head, all of them in one word. -/
def ItemReader.word (read : List UInt8 → Option Value) : ItemReader :=
  ⟨read, false, 32⟩

/-- The reader of a value that is a sequence. An offset leads to it if one of its items needs
one. -/
def ItemReader.ofItems (items : List ItemReader) (value : List Value → Value) : ItemReader where
  read data := (readSequence? items data 0).map value
  isDynamic := items.any ItemReader.isDynamic
  headSize := if items.any ItemReader.isDynamic then 32 else (items.map ItemReader.headSize).sum

mutual

/-- The reader for a type. -/
def reader : Ty → ItemReader
  | .bool => .word fun data => ((word? data).bind bool?).map .bool
  | .address => .word fun data => (address? data).map .address
  | .function => .word fun data => (padded? 24 data).map .function
  | .string => ⟨fun data => ((counted? data).bind ofUtf8?).map .string, true, 32⟩
  | .bytes => ⟨fun data => (counted? data).map .bytes, true, 32⟩
  | .fixedBytes length =>
    ⟨fun data => (padded? length data).map .fixedBytes, false, 32 * ((length + 31) / 32)⟩
  | .uint bits => .word fun data => (word? data).map fun n => .uint (BitVec.ofNat 256 n) bits
  | .int bits => .word fun data => (word? data).map fun n => .int (BitVec.ofNat 256 n) bits
  | .array item =>
    ⟨fun data => (word? data).bind fun count =>
      (readSequence? (List.replicate count (reader item)) (data.drop 32) 0).map .array, true, 32⟩
  | .fixedArray item length => .ofItems (List.replicate length (reader item)) .fixedArray
  | .tuple items => .ofItems (readers items) .tuple

/-- The readers for several types. -/
def readers : List Ty → List ItemReader
  | [] => []
  | ty :: tys => reader ty :: readers tys

end

/-- The values of the types that the data encode. -/
def decode? (types : List Ty) (data : List UInt8) : Option (List Value) :=
  readSequence? (readers types) data 0

/-- An item is read back from the bytes of a value, whatever follows them, and its head is that of
the value. -/
structure ItemReader.Reads (r : ItemReader) (value : Value) : Prop where
  isDynamic_eq : value.part.isDynamic = r.isDynamic
  headSize_eq : value.part.headSize = r.headSize
  read_eq : ∀ rest, r.read (value.part.bytes ++ rest) = some value

variable {before after ps : List Part} {p : Part} {offset n : Nat} {rest bytes : List UInt8}
  {r : ItemReader} {rs : List ItemReader} {values : List Value}

section Layout

/-- Sizes of heads add up. -/
theorem headsSize_append (before after : List Part) :
    headsSize (before ++ after) = headsSize before + headsSize after := by
  induction before with
  | nil => simp [headsSize]
  | cons p before ih => simp only [List.cons_append, headsSize, ih, Nat.add_assoc]

/-- The tails of all parts stand one behind the other. -/
theorem tails_append (before after : List Part) :
    tails (before ++ after) = tails before ++ tails after := by
  simp [tails]

/-- The heads take as many bytes as their sizes say. -/
theorem length_heads (offset : Nat) (ps : List Part) :
    (heads offset ps).length = headsSize ps := by
  induction ps generalizing offset with
  | nil => rfl
  | cons p ps ih =>
    rw [heads, headsSize, Part.headSize]
    split
    · rw [List.length_append, ih, length_bigEndian]
    · rw [List.length_append, ih]

/-- The tail has moved on behind the first heads. -/
theorem heads_append (offset : Nat) (before after : List Part) :
    heads offset (before ++ after) =
      heads offset before ++ heads (offset + (tails before).length) after := by
  induction before generalizing offset with
  | nil => simp [heads, tails]
  | cons p before ih =>
    have htails : tails (p :: before) = (if p.isDynamic then p.bytes else []) ++ tails before := rfl
    rw [List.cons_append, heads, heads, htails]
    split
    · rw [ih, List.append_assoc, List.length_append, Nat.add_assoc]
    · rw [ih, List.append_assoc, List.nil_append]

/-- The bytes of a sequence are those of its heads and of its tails. -/
theorem length_sequence (ps : List Part) :
    (sequence ps).length = headsSize ps + (tails ps).length := by
  rw [sequence, List.length_append, length_heads]

/-- No part is longer than the sequence. -/
theorem length_bytes_le_sequence (hp : p ∈ ps) : p.bytes.length ≤ (sequence ps).length := by
  obtain ⟨before, after, rfl⟩ := List.append_of_mem hp
  rw [length_sequence, headsSize_append, headsSize, Part.headSize, tails_append, List.length_append]
  have htails : tails (p :: after) = (if p.isDynamic then p.bytes else []) ++ tails after := rfl
  rw [htails, List.length_append]
  split
  · omega
  · omega

/-- A word is read back. -/
theorem word?_bigEndian (hn : n < 2 ^ 256) (rest : List UInt8) :
    word? (bigEndian 32 n ++ rest) = some n := by
  have hlength := length_bigEndian 32 n
  rw [word?, if_pos (by rw [List.length_append]; omega), List.take_left' hlength,
    ofBigEndian_bigEndian (by omega)]

/-- An item is found from its head, which stands behind the heads of the items before. -/
theorem ItemReader.locate?_sequence (hdynamic : p.isDynamic = r.isDynamic)
    (hsize : (sequence (before ++ p :: after)).length < 2 ^ 256) (rest : List UInt8) :
    ∃ rest', r.locate? (sequence (before ++ p :: after) ++ rest) (headsSize before) =
      some (p.bytes ++ rest') := by
  have hdrop : (sequence (before ++ p :: after) ++ rest).drop (headsSize before) =
      heads (headsSize (before ++ p :: after) + (tails before).length) (p :: after) ++
        (tails (before ++ p :: after) ++ rest) := by
    rw [sequence, heads_append, List.append_assoc, List.append_assoc,
      List.drop_left' (length_heads _ before)]
  rw [locate?, hdrop, heads, ← hdynamic]
  cases hp : p.isDynamic with
  | false =>
    simp only [Bool.false_eq_true, if_false, List.append_assoc]
    exact ⟨_, rfl⟩
  | true =>
    have htail : tails (p :: after) = p.bytes ++ tails after := by
      rw [tails, List.flatMap_cons, if_pos hp]
      rfl
    have hoffset : headsSize (before ++ p :: after) + (tails before).length < 2 ^ 256 := by
      rw [length_sequence, tails_append, List.length_append] at hsize
      omega
    have hfront : (heads (headsSize (before ++ p :: after)) (before ++ p :: after) ++
        tails before).length = headsSize (before ++ p :: after) + (tails before).length := by
      rw [List.length_append, length_heads]
    refine ⟨tails after ++ rest, ?_⟩
    simp only [if_true, List.append_assoc, word?_bigEndian hoffset, Option.map_some]
    rw [sequence, tails_append, htail, ← List.append_assoc (heads _ _), List.append_assoc,
      List.drop_left' hfront, List.append_assoc]

/-- The items of a sequence are read back, from the head of any of them on. -/
theorem readSequence?_sequence (before : List Part)
    (hreads : List.Forall₂ ItemReader.Reads rs values)
    (hsize : (sequence (before ++ parts values)).length < 2 ^ 256) (rest : List UInt8) :
    readSequence? rs (sequence (before ++ parts values) ++ rest) (headsSize before) =
      some values := by
  induction hreads generalizing before with
  | nil => rfl
  | @cons r value rs values hfirst _ ih =>
    rw [parts] at hsize ⊢
    have hsplit : before ++ value.part :: parts values =
        (before ++ [value.part]) ++ parts values := by simp
    have hposition : headsSize before + r.headSize = headsSize (before ++ [value.part]) := by
      rw [headsSize_append, headsSize, headsSize, hfirst.headSize_eq, Nat.add_zero]
    obtain ⟨rest', hlocate⟩ := ItemReader.locate?_sequence hfirst.isDynamic_eq hsize rest
    have hrest := ih (before ++ [value.part]) (by rwa [← hsplit])
    rw [readSequence?, hlocate, hposition]
    simp only [Option.bind_eq_bind, Option.bind_some, hfirst.read_eq]
    rw [hsplit, hrest]
    rfl

end Layout

section Leaves

/-- The bytes of a word are filled up to a multiple of 32. -/
theorem length_padRight (bytes : List UInt8) :
    (padRight bytes).length = 32 * ((bytes.length + 31) / 32) := by
  rw [padRight, List.length_append, List.length_replicate]
  omega

/-- Filled bytes are read back. -/
theorem padded?_padRight (bytes rest : List UInt8) :
    padded? bytes.length (padRight bytes ++ rest) = some bytes := by
  have hlength := length_padRight bytes
  have hzeros : ((padRight bytes ++ rest).take (32 * ((bytes.length + 31) / 32))).drop
      bytes.length = List.replicate ((32 - bytes.length % 32) % 32) 0 := by
    rw [List.take_left' hlength, padRight, List.drop_left]
  have htake : (padRight bytes ++ rest).take bytes.length = bytes := by
    rw [padRight, List.append_assoc, List.take_left]
  simp only [padded?, hzeros, htake]
  rw [if_pos]
  refine ⟨?_, ?_⟩
  · rw [List.length_append]
    omega
  · simp

/-- Counted bytes are read back, if their number fits in a word. -/
theorem counted?_counted (hsize : bytes.length < 2 ^ 256) (rest : List UInt8) :
    counted? (counted bytes ++ rest) = some bytes := by
  have hdrop : (bigEndian 32 bytes.length ++ (padRight bytes ++ rest)).drop 32 =
      padRight bytes ++ rest := List.drop_left' (length_bigEndian 32 _)
  rw [counted?, counted, List.append_assoc, word?_bigEndian hsize, Option.bind_some, hdrop,
    padded?_padRight]

/-- Counted bytes are no more than the bytes that they take. -/
theorem length_le_counted (bytes : List UInt8) : bytes.length ≤ (counted bytes).length := by
  rw [counted, padRight, List.length_append, List.length_append]
  omega

/-- The word of a number is read back. -/
theorem map_word?_bytes (v : Uint256) (rest : List UInt8) :
    (word? (v.bytes ++ rest)).map (BitVec.ofNat 256) = some v := by
  rw [Uint256.bytes, word?_bigEndian v.isLt, Option.map_some, BitVec.ofNat_toNat,
    BitVec.setWidth_eq]

/-- An address is read back. -/
theorem address?_part (a : Address) (rest : List UInt8) :
    address? (List.replicate 12 0 ++ a.bytes ++ rest) = some a := by
  have hzeros : (List.replicate 12 (0 : UInt8) ++ (a.bytes ++ rest)).take 12 =
      List.replicate 12 0 := List.take_left' List.length_replicate
  have hdigits : (List.replicate 12 (0 : UInt8) ++ (a.bytes ++ rest)).drop 12 = a.bytes ++ rest :=
    List.drop_left' List.length_replicate
  rw [List.append_assoc, address?, hzeros, hdigits, List.take_left' a.length_bytes,
    FixedBytes.ofList?_bytes, if_pos (by simp)]

end Leaves

/-- The encodings of the value and of all lists inside it have sizes that fit in a word. -/
structure IsMeasured (value : Value) : Prop where
  length_lt : value.part.bytes.length < 2 ^ 256
  count_lt : ∀ items, (Value.array items).Within value → items.length < 2 ^ 256

/-- Items are read back one by one if they are read back by one reader. -/
theorem forall₂_replicate (hreads : ∀ value ∈ values, r.Reads value) :
    List.Forall₂ ItemReader.Reads (List.replicate values.length r) values := by
  induction values with
  | nil => exact List.Forall₂.nil
  | cons value values ih =>
    obtain ⟨hfirst, hlater⟩ := List.forall_mem_cons.mp hreads
    exact List.Forall₂.cons hfirst (ih hlater)

/-- A part for each value. -/
theorem mem_parts {value : Value} (hvalue : value ∈ values) : value.part ∈ parts values := by
  induction values with
  | nil => cases hvalue
  | cons first values ih =>
    rw [parts]
    rcases List.mem_cons.mp hvalue with rfl | hvalue
    · exact List.mem_cons_self
    · exact List.mem_cons_of_mem _ (ih hvalue)

/-- Nothing stands in the tails if no part belongs there. -/
theorem tails_eq_nil (hstatic : ps.any Part.isDynamic = false) : tails ps = [] := by
  rw [tails, List.flatMap_eq_nil_iff]
  intro p hp
  exact if_neg (by simpa using List.any_eq_false.mp hstatic p hp)

/-- A sequence is read back if its items are. -/
theorem reads_ofItems {make : List Value → Value} (hreads : List.Forall₂ ItemReader.Reads rs values)
    (hpart : (make values).part = ⟨(parts values).any Part.isDynamic, sequence (parts values)⟩)
    (hsize : (sequence (parts values)).length < 2 ^ 256) :
    (ItemReader.ofItems rs make).Reads (make values) := by
  have hdynamic : (parts values).any Part.isDynamic = rs.any ItemReader.isDynamic := by
    clear hpart hsize
    induction hreads with
    | nil => rfl
    | cons hfirst _ ih => simp only [parts, List.any_cons, hfirst.isDynamic_eq, ih]
  have hheads : headsSize (parts values) = (rs.map ItemReader.headSize).sum := by
    clear hpart hsize hdynamic
    induction hreads with
    | nil => rfl
    | cons hfirst _ ih =>
      rw [parts, headsSize, List.map_cons, List.sum_cons, hfirst.headSize_eq, ih]
  constructor
  case isDynamic_eq =>
    rw [hpart]
    exact hdynamic
  case headSize_eq =>
    rw [hpart, Part.headSize, ItemReader.ofItems, ← hdynamic]
    cases hany : (parts values).any Part.isDynamic with
    | true => rfl
    | false =>
      have hlength := length_sequence (parts values)
      rw [tails_eq_nil hany, List.length_nil, Nat.add_zero, hheads] at hlength
      simpa using hlength
  case read_eq =>
    intro rest
    have hread := readSequence?_sequence [] hreads hsize rest
    rw [hpart]
    exact congrArg (Option.map make) hread

/-- A list is read back if its items are. -/
theorem reads_array (hreads : ∀ value ∈ values, r.Reads value)
    (hsize : (sequence (parts values)).length < 2 ^ 256) (hcount : values.length < 2 ^ 256) :
    (ItemReader.mk (fun data => (word? data).bind fun count =>
      (readSequence? (List.replicate count r) (data.drop 32) 0).map .array) true 32).Reads
      (.array values) := by
  have hpart : (Value.array values).part =
      ⟨true, bigEndian 32 values.length ++ sequence (parts values)⟩ := by
    rw [part]
  refine ⟨by rw [hpart], by rw [hpart]; rfl, fun rest => ?_⟩
  have hdrop : (bigEndian 32 values.length ++ (sequence (parts values) ++ rest)).drop 32 =
      sequence (parts values) ++ rest := List.drop_left' (length_bigEndian 32 _)
  have hread := readSequence?_sequence [] (forall₂_replicate hreads) hsize rest
  rw [List.nil_append, headsSize] at hread
  simp only [hpart, List.append_assoc, word?_bigEndian hcount, Option.bind_some, hdrop, hread,
    Option.map_some]

/-- A value of one word is read back if its word is. -/
theorem reads_word {value : Value} {read : List UInt8 → Option Value}
    (hpart : value.part = ⟨false, bytes⟩) (hlength : bytes.length = 32)
    (hread : ∀ rest, read (bytes ++ rest) = some value) : (ItemReader.word read).Reads value := by
  refine ⟨by rw [hpart]; rfl, ?_, fun rest => ?_⟩
  · rw [hpart]
    exact hlength
  · rw [hpart]
    exact hread rest

/-- A number is read back from its word. -/
theorem reads_number (make : Uint256 → Value) {v : Uint256}
    (hpart : (make v).part = ⟨false, v.bytes⟩) :
    (ItemReader.word fun data => (word? data).map fun n => make (BitVec.ofNat 256 n)).Reads
      (make v) := by
  refine reads_word hpart (length_bigEndian 32 _) fun rest => ?_
  have hread := congrArg (Option.map make) (map_word?_bytes v rest)
  rwa [Option.map_map] at hread

/-- A value of counted bytes is read back if the bytes make up the value. -/
theorem reads_counted {value : Value} {read : List UInt8 → Option Value}
    (hpart : value.part = ⟨true, counted bytes⟩) (hsize : value.part.bytes.length < 2 ^ 256)
    (hread : ∀ data, counted? data = some bytes → read data = some value) :
    (ItemReader.mk read true 32).Reads value := by
  have hbytes : bytes.length < 2 ^ 256 := by
    have hle := length_le_counted bytes
    rw [hpart] at hsize
    exact Nat.lt_of_le_of_lt hle hsize
  refine ⟨by rw [hpart], by rw [hpart]; rfl, fun rest => ?_⟩
  rw [hpart]
  exact hread _ (counted?_counted hbytes rest)

/-- The items of a measured value are measured. -/
theorem IsMeasured.of_mem {whole : Value} (hmeasured : whole.IsMeasured)
    (hbytes : (sequence (parts values)).length ≤ whole.part.bytes.length)
    (hwithin : ∀ value ∈ values, ∀ inner, Within inner value → Within inner whole) :
    ∀ value ∈ values, value.IsMeasured := by
  intro value hvalue
  have hle := length_bytes_le_sequence (mem_parts hvalue)
  refine ⟨Nat.lt_of_le_of_lt (hle.trans hbytes) hmeasured.length_lt, fun items hitems => ?_⟩
  exact hmeasured.count_lt items (hwithin value hvalue _ hitems)

/-- The items of a measured list are measured. -/
theorem IsMeasured.of_array (hmeasured : (Value.array values).IsMeasured) :
    (sequence (parts values)).length < 2 ^ 256 ∧ ∀ value ∈ values, value.IsMeasured := by
  have hlength : (sequence (parts values)).length ≤ (Value.array values).part.bytes.length := by
    rw [part, List.length_append]
    exact Nat.le_add_left _ _
  exact ⟨Nat.lt_of_le_of_lt hlength hmeasured.length_lt,
    hmeasured.of_mem hlength fun value hvalue inner => Within.array hvalue⟩

/-- The items of a measured list of a fixed length are measured. -/
theorem IsMeasured.of_fixedArray (hmeasured : (Value.fixedArray values).IsMeasured) :
    (sequence (parts values)).length < 2 ^ 256 ∧ ∀ value ∈ values, value.IsMeasured := by
  have hlength : (sequence (parts values)).length ≤
      (Value.fixedArray values).part.bytes.length := by
    rw [part]
  exact ⟨Nat.lt_of_le_of_lt hlength hmeasured.length_lt,
    hmeasured.of_mem hlength fun value hvalue inner => Within.fixedArray hvalue⟩

/-- The items of a measured tuple are measured. -/
theorem IsMeasured.of_tuple (hmeasured : (Value.tuple values).IsMeasured) :
    (sequence (parts values)).length < 2 ^ 256 ∧ ∀ value ∈ values, value.IsMeasured := by
  have hlength : (sequence (parts values)).length ≤ (Value.tuple values).part.bytes.length := by
    rw [part]
  exact ⟨Nat.lt_of_le_of_lt hlength hmeasured.length_lt,
    hmeasured.of_mem hlength fun value hvalue inner => Within.tuple hvalue⟩

mutual

/-- The reader for a type reads back all measured values of its shape. -/
theorem reads_reader : (ty : Ty) → (value : Value) → fits ty value = true →
    value.IsMeasured → (reader ty).Reads value
  | .bool, .bool b, _, _ => by
    have hword : b.toNat < 2 ^ 256 := by cases b <;> decide
    have hbool : bool? b.toNat = some b := by cases b <;> rfl
    rw [reader]
    refine reads_word (by rw [part]) (length_bigEndian 32 _) fun rest => ?_
    rw [word?_bigEndian hword, Option.bind_some, hbool, Option.map_some]
  | .address, .address a, _, _ => by
    rw [reader]
    refine reads_word (by rw [part]) (by simp [a.length_bytes]) fun rest => ?_
    rw [address?_part, Option.map_some]
  | .function, .function content, hfits, _ => by
    have hlength : content.length = 24 := by simpa [fits] using hfits
    rw [reader]
    refine reads_word (by rw [part]) (by rw [length_padRight, hlength]) fun rest => ?_
    rw [← hlength, padded?_padRight, Option.map_some]
  | .string, .string s, _, hmeasured => by
    rw [reader]
    refine reads_counted (by rw [part]) hmeasured.length_lt fun data hdata => ?_
    rw [hdata, Option.bind_some, ofUtf8?_utf8, Option.map_some]
  | .bytes, .bytes content, _, hmeasured => by
    rw [reader]
    refine reads_counted (by rw [part]) hmeasured.length_lt fun data hdata => ?_
    rw [hdata, Option.map_some]
  | .fixedBytes length, .fixedBytes content, hfits, _ => by
    have hlength : content.length = length := by simpa [fits] using hfits
    rw [reader]
    refine ⟨by rw [part], ?_, fun rest => ?_⟩
    · rw [part, ← hlength]
      exact length_padRight content
    · simp only [part, ← hlength, padded?_padRight, Option.map_some]
  | .uint bits, .uint v bits', hfits, _ => by
    obtain rfl : bits = bits' := by simpa [fits] using hfits
    rw [reader]
    exact reads_number (Value.uint · bits) (by rw [part])
  | .int bits, .int v bits', hfits, _ => by
    obtain rfl : bits = bits' := by simpa [fits] using hfits
    rw [reader]
    exact reads_number (Value.int · bits) (by rw [part])
  | .array item, .array items, hfits, hmeasured => by
    have hfits : ∀ value ∈ items, fits item value = true := by simpa [fits] using hfits
    obtain ⟨hsize, hitems⟩ := hmeasured.of_array
    have hreads : ∀ value ∈ items, (reader item).Reads value := fun value hvalue =>
      reads_reader item value (hfits value hvalue) (hitems value hvalue)
    rw [reader]
    exact reads_array hreads hsize (hmeasured.count_lt items Within.refl)
  | .fixedArray item length, .fixedArray items, hfits, hmeasured => by
    have hfits : items.length = length ∧ ∀ value ∈ items, fits item value = true := by
      simpa [fits] using hfits
    obtain ⟨hsize, hitems⟩ := hmeasured.of_fixedArray
    have hreads : ∀ value ∈ items, (reader item).Reads value := fun value hvalue =>
      reads_reader item value (hfits.2 value hvalue) (hitems value hvalue)
    rw [reader, ← hfits.1]
    exact reads_ofItems (forall₂_replicate hreads) (by rw [part]) hsize
  | .tuple tys, .tuple items, hfits, hmeasured => by
    obtain ⟨hsize, hitems⟩ := hmeasured.of_tuple
    rw [fits] at hfits
    rw [reader]
    exact reads_ofItems (reads_readers tys items hfits hitems) (by rw [part]) hsize

/-- The readers for types read back measured values of their shapes. -/
theorem reads_readers : (types : List Ty) → (values : List Value) →
    fitEach types values = true → (∀ value ∈ values, value.IsMeasured) →
    List.Forall₂ ItemReader.Reads (readers types) values
  | [], [], _, _ => by
    rw [readers]
    exact List.Forall₂.nil
  | ty :: tys, value :: values, hfits, hmeasured => by
    rw [fitEach, Bool.and_eq_true] at hfits
    obtain ⟨hfirst, hlater⟩ := List.forall_mem_cons.mp hmeasured
    rw [readers]
    exact List.Forall₂.cons (reads_reader ty value hfits.1 hfirst)
      (reads_readers tys values hfits.2 hlater)

end

/-- What is encoded decodes to the same values. -/
theorem decode?_encode {types : List Ty} (hfits : fitEach types values = true)
    (hsize : (encode values).length < 2 ^ 256)
    (hcount : ∀ value ∈ values, ∀ items, (Value.array items).Within value →
      items.length < 2 ^ 256) :
    decode? types (encode values) = some values := by
  have hmeasured : ∀ value ∈ values, value.IsMeasured := fun value hvalue =>
    ⟨Nat.lt_of_le_of_lt (length_bytes_le_sequence (mem_parts hvalue)) hsize, hcount value hvalue⟩
  have hread := readSequence?_sequence [] (reads_readers types values hfits hmeasured)
    hsize []
  rwa [List.nil_append, List.append_nil, headsSize] at hread

end Value

end Rollout
