import Rollout.Domain.Basic
import Rollout.Text.Numerals

/-!
# Hosts

The parts of a URL hold only plain characters. All others are written as the bytes of their UTF-8
form, each as a percent sign and two capital digits. Which characters are plain depends on the part.

The host of a URL is a domain name, an address of the older or the newer internet protocol, or, for
schemes that are not of the web, any text. A domain name that ends in a number has to be an address.
-/

namespace Rollout.Url

/-! ## Percent encoding -/

/-- A percent sign and the two capital digits of a byte. -/
def escapeByte (byte : UInt8) : List Char :=
  '%' :: (Hex.ofByte byte).map Char.toUpper

/-- Write a text with the characters outside of ASCII and those of a set encoded. -/
def encodePart (encoded : Char → Bool) (text : List Char) : List Char :=
  text.flatMap fun c =>
    if c.toNat < 0x80 && !encoded c then [c]
    else (String.utf8EncodeChar c).flatMap escapeByte

/-- The control characters of ASCII. -/
def isControl (c : Char) : Bool :=
  c.toNat < 0x20 || c.toNat == 0x7f

/-- What is encoded in a fragment. -/
def inFragment (c : Char) : Bool :=
  isControl c || c ∈ [' ', '"', '<', '>', '\x60']

/-- What is encoded in the segments of a path. -/
def inPath (c : Char) : Bool :=
  inFragment c || c ∈ ['#', '?', '\x7b', '\x7d']

/-- What is encoded in a name and a password. -/
def inCredentials (c : Char) : Bool :=
  inPath c || c ∈ ['/', ':', ';', '=', '@', '[', '\\', ']', '^', '|']

/-- What is encoded in a query. -/
def inQuery (c : Char) : Bool :=
  isControl c || c ∈ [' ', '"', '#', '<', '>']

/-- What is encoded in the query of a web address. -/
def inWebQuery (c : Char) : Bool :=
  inQuery c || c == '\x27'

/-- The bytes of a text with its encoded bytes restored. -/
def decodeBytes : List UInt8 → List UInt8
  | [] => []
  | byte :: high :: low :: rest =>
    if byte = 0x25 then
      match Hex.digit? (Char.ofNat high.toNat), Hex.digit? (Char.ofNat low.toNat) with
      | some h, some l => UInt8.ofNat (16 * h + l) :: decodeBytes rest
      | _, _ => byte :: decodeBytes (high :: low :: rest)
    else byte :: decodeBytes (high :: low :: rest)
  | byte :: rest => byte :: decodeBytes rest

/-! ## Reading a host -/

/-- The host of a URL. -/
inductive Host where
  /-- A domain name, or the text of a host outside of the web. -/
  | name (text : List Char)
  /-- Four bytes. -/
  | v4 (address : Nat)
  /-- Eight numbers of sixteen bits. -/
  | v6 (pieces : List Nat)
  deriving DecidableEq

namespace Host

/-- The number of a piece of an older address, in one of three bases. -/
def number? (text : List Char) : Option Nat :=
  let (base, digits) : Nat × List Char :=
    match text with
    | '0' :: 'x' :: rest | '0' :: 'X' :: rest => (16, rest)
    | '0' :: c :: rest => (8, c :: rest)
    | _ => (10, text)
  if text = [] then none
  else
    digits.foldlM (fun n c => do
      let d ← Hex.digit? c
      if d < base then some (base * n + d) else none) 0

/-- The parts of a domain name, a last empty one left out. -/
def parts (domain : List Char) : List (List Char) :=
  let all := domain.splitOn '.'
  if all.getLast? = some [] ∧ 1 < all.length then all.dropLast else all

/-- The last part of the domain name is a number. -/
def endsInNumber (domain : List Char) : Bool :=
  match (parts domain).getLast? with
  | some last => last ≠ [] && (last.all Char.isDigit || (number? last).isSome)
  | none => false

/-- The older address that a domain name spells. The last of its numbers fills the bytes that the
others leave. -/
def v4? (domain : List Char) : Option Nat := do
  let numbers ← (parts domain).mapM number?
  let last ← numbers.getLast?
  let others := numbers.dropLast
  if 4 < numbers.length ∨ others.any (255 < ·) ∨ Nat.pow 256 (4 - others.length) ≤ last then none
  else return others.zipIdx.foldl (fun sum part => sum + part.1 * Nat.pow 256 (3 - part.2)) last

/-- The four decimal numbers of an older address inside a newer one, without leading zeros. -/
def quad? (text : List Char) : Option (List Nat) := do
  let numbers ← (text.splitOn '.').mapM fun digits =>
    if digits ≠ [] ∧ digits.all Char.isDigit ∧ digits.length ≤ 3 ∧
        (digits.head? ≠ some '0' ∨ digits.length = 1) ∧ Decimal.value digits ≤ 255
    then some (Decimal.value digits) else none
  match numbers with
  | [a, b, c, d] => return [256 * a + b, 256 * c + d]
  | _ => none

/-- One number of a newer address. -/
def piece? (digits : List Char) : Option Nat :=
  if digits ≠ [] ∧ digits.length ≤ 4 ∧ digits.all Hex.isDigit then some (Hex.value digits) else none

/-- The numbers of a text without an omission; the last one may be an older address. -/
def pieces? (text : List Char) : Option (List Nat) :=
  if text = [] then some []
  else do
    let all := text.splitOn ':'
    let last := all.getLast?.getD []
    let front ← all.dropLast.mapM piece?
    let back ← if last.contains '.' then quad? last else (piece? last).map ([·])
    return front ++ back

/-- Cut a text at its first pair of colons. -/
def cutOmission? : List Char → Option (List Char × List Char)
  | [] => none
  | ':' :: ':' :: rest => some ([], rest)
  | c :: rest => (cutOmission? rest).map fun (front, back) => (c :: front, back)

/-- The newer address of a text. One pair of colons stands for as many zeros as are missing. -/
def v6? (text : List Char) : Option (List Nat) :=
  match cutOmission? text with
  | none => (pieces? text).filter (·.length = 8)
  | some (front, back) => do
    let front' ← if front.contains '.' then none else pieces? front
    let back' ← pieces? back
    if front'.length + back'.length ≤ 7 then
      return front' ++ List.replicate (8 - front'.length - back'.length) 0 ++ back'
    else none

/-- The characters that no host may hold. -/
def isForbidden (c : Char) : Bool :=
  c.toNat = 0 ||
    c ∈ ['\t', '\n', '\r', ' ', '#', '/', ':', '<', '>', '?', '@', '[', '\\', ']', '^', '|']

/-- The newer address between brackets. -/
def bracketed? (text : List Char) : Option Host :=
  if text.getLast? = some ']' ∧ 2 ≤ text.length then (v6? (text.drop 1).dropLast).map .v6 else none

/-- The host of a web address or a file. -/
def parse? (text : List Char) : Option Host :=
  if text.head? = some '[' then bracketed? text
  else
    (Domain.toAscii? (decodeBytes (utf8 text))).bind fun domain =>
      if domain = [] then none
      else if endsInNumber domain then (v4? domain).map .v4
      else some (.name domain)

/-- The host of any other scheme. -/
def parseOpaque? (text : List Char) : Option Host :=
  if text.head? = some '[' then bracketed? text
  else if text.any isForbidden then none
  else some (.name (encodePart isControl text))

/-- The length of the run of zeros at the front. -/
def zeros (pieces : List Nat) : Nat :=
  (pieces.takeWhile (· = 0)).length

/-- The first of the longest runs of zeros: where it begins and how long it is. -/
def longestRun (pieces : List Nat) : Nat × Nat :=
  (List.range pieces.length).foldl
    (fun best i => let n := zeros (pieces.drop i); if best.2 < n then (i, n) else best) (0, 0)

/-- The numbers of a newer address, set apart by colons. -/
def piecesText (pieces : List Nat) : List Char :=
  [':'].intercalate (pieces.map Hex.ofNat)

/-- The text of a host. The longest run of zeros in a newer address is left out. -/
def text : Host → List Char
  | .name text => text
  | .v4 address =>
    ['.'].intercalate ((List.range 4).map fun i =>
      Decimal.digits (address / Nat.pow 256 (3 - i) % 256))
  | .v6 pieces =>
    let (start, length) := longestRun pieces
    if 2 ≤ length then
      '[' :: piecesText (pieces.take start) ++ [':', ':'] ++
        piecesText (pieces.drop (start + length)) ++ [']']
    else '[' :: piecesText pieces ++ [']']

end Host

end Rollout.Url
