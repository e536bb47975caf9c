import Rollout.Abi.TypeText
import Rollout.Abi.Value
import Rollout.Text.Numerals

/-!
# Literals

Arguments that do not have the kind of their parameter are read from their text. Numbers may have
a fraction, a decimal exponent and a unit, strings may be quoted, and lists and tuples hold
literals of their items. Blanks may precede a tuple but no other literal.
-/

namespace Rollout.Literal

/-- One of the two words. -/
def readBool? (text : List Char) : Option (Bool × List Char) := do
  let (word, rest) ← spanSome? Char.isAlpha text
  if word = ['t', 'r', 'u', 'e'] then some (true, rest)
  else if word = ['f', 'a', 'l', 's', 'e'] then some (false, rest)
  else none

/-- Hexadecimal digits, in pairs, after an optional mark. Only after it they may be missing. -/
def readHex? (text : List Char) : Option ((List UInt8) × List Char) :=
  let (marked, digits) : Bool × List Char :=
    match text with
    | '0' :: 'x' :: rest => (true, rest)
    | _ => (false, text)
  let run := digits.takeWhile Hex.isDigit
  if run = [] ∧ marked = false then none
  else (Hex.decode? run).map (·, digits.dropWhile Hex.isDigit)

/-- Exactly `n` bytes in hexadecimal digits. -/
def readBytes? (n : Nat) (text : List Char) : Option ((FixedBytes n) × List Char) :=
  (readHex? text).bind fun (bytes, rest) => (FixedBytes.ofList? bytes).map (·, rest)

/-- The digits of a whole number with the mark of its base. -/
def spanWhole? (text : List Char) : Option ((List Char) × List Char) :=
  match text with
  | '0' :: mark :: rest =>
    if mark ∈ ['x', 'X', 'o', 'O', 'b', 'B'] then
      (spanSome? Hex.isDigit rest).map fun (digits, rest) => ('0' :: mark :: digits, rest)
    else spanSome? Char.isDigit text
  | _ => spanSome? Char.isDigit text

/-- The digits behind a point. A point without a digit behind it is refused. -/
def readFraction? : TextReader (List Char)
  | '.' :: text => spanSome? Char.isDigit text
  | text => some ([], text)

/-- The digits of a positive exponent of less than 64 bits, which do not begin with zero. -/
def readPositive? : TextReader Nat
  | '0' :: _ => none
  | text => (spanSome? Char.isDigit text).bind fun (digits, rest) =>
    let n := Decimal.value digits
    if n < Nat.pow 2 63 then some (n, rest) else none

/-- An exponent behind its letter: a zero without a sign, or a positive number with or without
a sign. -/
def readExponentDigits? : TextReader Int
  | '0' :: rest => some (0, rest)
  | '-' :: text => (readPositive? text).map fun (n, rest) => (-(n : Int), rest)
  | '+' :: text => (readPositive? text).map fun (n, rest) => ((n : Int), rest)
  | text => (readPositive? text).map fun (n, rest) => ((n : Int), rest)

/-- The exponent at the front of a text, which may be missing. Nothing is taken of a text that is
no correct exponent or whose exponent leaves the range of 64 bits. -/
def readExponent (text : List Char) : Int × List Char :=
  if text.head? = some 'e' ∨ text.head? = some 'E' then
    (readExponentDigits? (text.drop 1)).getD (0, text)
  else (0, text)

/-- The decimal places of a unit at the front of a text. -/
def readUnit? (text : List Char) : Option (Nat × List Char) :=
  let rest := text.dropWhile Char.isAlpha
  let name := String.ofList (text.takeWhile Char.isAlpha)
  if name = "ether" then some (18, rest)
  else if name = "gwei" ∨ name = "nano" ∨ name = "nanoether" then some (9, rest)
  else if name = "" ∨ name = "wei" then some (0, rest)
  else none

/-- A number times a power of ten, if both the power and the product have at most 256 bits. -/
def scale? (n places : Nat) : Option Nat :=
  if places ≤ 77 then
    let scaled := n * Nat.pow 10 places
    if scaled < Nat.pow 2 256 then some scaled else none
  else none

/-- A whole number and its fraction, moved by a number of decimal places that must not be smaller
than the number of digits of the fraction. -/
def amount? (whole : Nat) (fraction : List Char) (places : Int) : Option Nat :=
  if places < fraction.length then none
  else do
    let whole ← scale? whole fraction.length
    let n := whole + Decimal.value fraction
    if n < Nat.pow 2 256 then scale? n (places.toNat - fraction.length) else none

/-- An unsigned number of at most `bits` bits. -/
def readUint? (bits : Nat) (text : List Char) : Option (Nat × List Char) := do
  let (digits, rest) ← spanWhole? text
  let (fraction, rest) ← readFraction? rest
  let whole ← Uint256.parse? (String.ofList digits)
  let (exponent, rest) := readExponent rest
  let (unitPlaces, rest) ← readUnit? (skipInlineBlanks rest)
  let n ← amount? whole.toNat fraction (unitPlaces + exponent)
  if n < Nat.pow 2 bits then some (n, rest) else none

/-- A number with an optional sign, whose magnitude has at most `bits` bits. Without a minus it
must leave the highest bit free. -/
def readInt? (bits : Nat) (text : List Char) : Option (Int × List Char) :=
  match text with
  | '-' :: rest =>
    (readUint? bits rest).bind fun (n, rest) =>
      if n ≤ Nat.pow 2 255 then some (-(n : Int), rest) else none
  | '+' :: rest => positive rest
  | _ => positive text
where
  /-- A number that leaves the highest bit free. -/
  positive (text : List Char) : Option (Int × List Char) :=
    (readUint? bits text).bind fun (n, rest) =>
      if n < Nat.pow 2 (bits - 1) then some ((n : Int), rest) else none

/-- A string: between quotation marks of either kind, or up to a comma or the closing bracket of
the innermost list. Outside of lists it takes the whole text. -/
def readString? (close : Option Char) (text : List Char) : Option (String × List Char) :=
  match text with
  | [] => some ("", [])
  | c :: rest =>
    if c = '"' ∨ c = '\x27' then
      match rest.dropWhile (· ≠ c) with
      | [] => none
      | _ :: after => some (String.ofList (rest.takeWhile (· ≠ c)), after)
    else
      match close with
      | none => some (String.ofList (trimRight text), [])
      | some close =>
        (spanSome? (fun d => d ≠ ',' && d ≠ close) text).map fun (chars, rest) =>
          (String.ofList (trimRight chars), rest)

/-- A list of items in brackets. -/
def readList? {α : Type} (read : TextReader α) : TextReader (List α)
  | '[' :: text => readBracketed ']' read text
  | _ => none

/-- The text behind a character that has to come, blanks around it aside. -/
def skipMark? (mark : Char) (text : List Char) : Option (List Char) :=
  match skipInlineBlanks text with
  | c :: rest => if c = mark then some (skipInlineBlanks rest) else none
  | [] => none

mutual

/-- A literal of a type at the front of a text, inside a list that `close` ends. Its items may
stand in `levels` further lists; a tuple is no level of its own. -/
def read? : Ty → (levels : Nat) → (close : Option Char) → TextReader Value
  | .bool, _, _, text => (readBool? text).map fun (b, rest) => (.bool b, rest)
  | .address, _, _, text => (readBytes? 20 text).map fun (a, rest) => (.address a, rest)
  | .function, _, _, text => (readBytes? 24 text).map fun (f, rest) => (.function f.bytes, rest)
  | .string, _, close, text => (readString? close text).map fun (s, rest) => (.string s, rest)
  | .bytes, _, _, text => (readHex? text).map fun (bytes, rest) => (.bytes bytes, rest)
  | .fixedBytes n, _, _, text =>
    (readBytes? n text).map fun (b, rest) => (.fixedBytes b.bytes, rest)
  | .uint bits, _, _, text =>
    (readUint? bits text).map fun (n, rest) => (.uint (BitVec.ofNat 256 n) bits, rest)
  | .int bits, _, _, text =>
    (readInt? bits text).map fun (n, rest) => (.int (BitVec.ofInt 256 n) bits, rest)
  | .array item, levels, _, text =>
    let readItem (levels : Nat) (text : List Char) := read? item levels (some ']') text
    (readList? (deeper readItem levels) text).map fun (items, rest) => (.array items, rest)
  | .fixedArray item length, levels, _, text =>
    let readItem (levels : Nat) (text : List Char) := read? item levels (some ']') text
    (readList? (deeper readItem levels) text).bind fun (items, rest) =>
      if items.length = length then some (.fixedArray items, rest) else none
  | .tuple items, levels, _, text =>
    match skipInlineBlanks text with
    | '(' :: text =>
      (readTuple? items levels (skipInlineBlanks text)).map fun (values, rest) =>
        (.tuple values, rest)
    | _ => none

/-- The items of a tuple and its closing parenthesis. -/
def readTuple? : List Ty → (levels : Nat) → TextReader (List Value)
  | [], _, text => (closing? ')' text).map ([], ·)
  | [item], levels, text => do
    let (value, rest) ← read? item levels (some ')') text
    (closing? ')' rest).map ([value], ·)
  | item :: items, levels, text => do
    let (value, rest) ← read? item levels (some ')') text
    let rest ← skipMark? ',' rest
    let (values, rest) ← readTuple? items levels rest
    return (value :: values, rest)

end

/-- A text that is one literal of the type as a whole. -/
def parse? (ty : Ty) (s : String) : Option Value :=
  (read? ty maxNesting none s.toList).bind fun (value, rest) =>
    if rest = [] then some value else none

end Rollout.Literal
