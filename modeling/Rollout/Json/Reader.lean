import Rollout.Json.Excess
import Rollout.Json.Basic

/-!
# Reading JSON

The reader takes one character at a time. It keeps the containers that are still open and what may
come next, so reading a text is a fold and can be cut at any character. Blanks are the space, the
tab and the two line ends; nothing else may stand around values. The shape of a document decides
only where the array of a byte string may end with a value that is given up.
-/

namespace Rollout

namespace Numeral

/-- The longest run of decimal digits at the front, and the rest. -/
def spanDigits (text : List Char) : List Char × List Char :=
  (text.takeWhile Char.isDigit, text.dropWhile Char.isDigit)

/-- An exponent after its mark: an optional sign and at least one digit. -/
def readExponent? (text : List Char) : Option Int :=
  let (negative, digits) : Bool × List Char :=
    match text with
    | '-' :: rest => (true, rest)
    | '+' :: rest => (false, rest)
    | _ => (false, text)
  if digits ≠ [] ∧ digits.all Char.isDigit then
    let n : Int := Decimal.value digits
    some (if negative then -n else n)
  else none

/-- The end of a number after all its digits. -/
def readEnd? (negative : Bool) (digits : List Char) (places : Option Nat) :
    List Char → Option Numeral
  | [] => some ⟨negative, Decimal.value digits, places, none⟩
  | 'e' :: rest | 'E' :: rest =>
    (readExponent? rest).map fun e => ⟨negative, Decimal.value digits, places, some e⟩
  | _ => none

/-- A number without its sign: no leading zeros, and digits on both sides of a point. -/
def readUnsigned? (negative : Bool) (text : List Char) : Option Numeral :=
  let (whole, rest) := spanDigits text
  if whole = [] ∨ (whole.head? = some '0' ∧ 1 < whole.length) then none
  else
    match rest with
    | '.' :: rest =>
      let (fraction, rest) := spanDigits rest
      if fraction = [] then none
      else readEnd? negative (whole ++ fraction) (some fraction.length) rest
    | _ => readEnd? negative whole none rest

/-- Read a whole literal. -/
def parse? : List Char → Option Numeral
  | '-' :: rest => readUnsigned? true rest
  | text => readUnsigned? false text

end Numeral

namespace Json

/-- A container whose closing bracket is still to come, its contents last first. The outermost one
is the document itself. -/
inductive Frame where
  | document (shape : Shape)
  | array (shape : Shape) (items : List Json)
  | object (shape : Shape) (members : List (Option String × Json))
  /-- An object whose member of this key waits for its value. -/
  | member (shape : Shape) (members : List (Option String × Json)) (key : Option String)

/-- The place inside a string literal. -/
inductive Escape where
  | plain
  | backslash
  /-- After `u`, with this many digits to come. -/
  | code (missing value : Nat)

/-- What may come next. -/
inductive Need where
  | value
  | firstItem
  | firstKey
  | key
  | colon (key : Option String)
  /-- After a value inside a container. -/
  | separator
  /-- Inside a string literal, with the codes read so far, last first. -/
  | text (isKey : Bool) (codes : List Nat) (escape : Escape)
  /-- Inside a number, with the characters read so far, last first. -/
  | number (chars : List Char)
  /-- Inside one of the three words, with the characters still to come. -/
  | word (missing : List Char) (value : Json)
  /-- After the comma behind the last byte of a byte string. -/
  | excess (state : Excess)
  /-- After the whole document. -/
  | done (value : Json)

/-- A document read up to some character. -/
structure Reader where
  frames : List Frame
  need : Need

/-- The characters that a number may hold. -/
def isNumberChar (c : Char) : Bool :=
  c.isDigit || c == '-' || c == '+' || c == '.' || c == 'e' || c == 'E'

/-- The text of string codes. A pair of surrogates is one character, half of a pair is none. -/
def ofCodes? : List Nat → Option (List Char)
  | [] => some []
  | high :: rest =>
    if 0xd800 ≤ high ∧ high < 0xdc00 then
      match rest with
      | low :: rest =>
        if 0xdc00 ≤ low ∧ low < 0xe000 then
          (ofCodes? rest).map
            (Char.ofNat (0x10000 + 0x400 * (high - 0xd800) + (low - 0xdc00)) :: ·)
        else none
      | [] => none
    else if 0xdc00 ≤ high ∧ high < 0xe000 then none
    else (ofCodes? rest).map (Char.ofNat high :: ·)

/-- The object of its members, unless one of its keys is unreadable. -/
def ofMembers (members : List (Option String × Json)) : Json :=
  match members.mapM fun (key, value) => key.map (·, value) with
  | some members => .object members
  | none => .unreadable

namespace Reader

/-- Nothing read yet. -/
def start (shape : Shape) : Reader := ⟨[.document shape], .value⟩

/-- The shape of the next value inside these containers. -/
def expected (frames : List Frame) : Shape :=
  match frames with
  | .document shape :: _ => shape
  | .array shape items :: _ => shape.item items.length
  | .member shape _ key :: _ => shape.member key
  | _ => .any

/-- A value is complete inside these containers. -/
def accept (frames : List Frame) (value : Json) : Reader :=
  match frames with
  | .array shape items :: frames => ⟨.array shape (value :: items) :: frames, .separator⟩
  | .object shape members :: frames => ⟨.object shape members :: frames, .separator⟩
  | .member shape members key :: frames =>
    ⟨.object shape ((key, value) :: members) :: frames, .separator⟩
  | _ => ⟨[], .done value⟩

/-- A string literal is complete. -/
def acceptText (frames : List Frame) (isKey : Bool) (codes : List Nat) : Reader :=
  let text := (ofCodes? codes.reverse).map String.ofList
  if isKey then ⟨frames, .colon text⟩
  else accept frames (text.elim .unreadable .string)

/-- The first character of a value. -/
def stepValue (frames : List Frame) (c : Char) : Option Reader :=
  if c = '"' then some ⟨frames, .text false [] .plain⟩
  else if c = '[' then some ⟨.array (expected frames) [] :: frames, .firstItem⟩
  else if c = '\x7b' then some ⟨.object (expected frames) [] :: frames, .firstKey⟩
  else if c = 't' then some ⟨frames, .word ['r', 'u', 'e'] (.bool true)⟩
  else if c = 'f' then some ⟨frames, .word ['a', 'l', 's', 'e'] (.bool false)⟩
  else if c = 'n' then some ⟨frames, .word ['u', 'l', 'l'] .null⟩
  else if c = '-' ∨ c.isDigit then some ⟨frames, .number [c]⟩
  else none

/-- A character between the values of the innermost container. -/
def stepSeparator (frames : List Frame) (c : Char) : Option Reader :=
  match frames with
  | .array shape items :: frames =>
    if c = ',' then
      let need := if shape.isFull items then .excess .start else .value
      some ⟨.array shape items :: frames, need⟩
    else if c = ']' then some (accept frames (.array items.reverse))
    else none
  | .object shape members :: frames =>
    if c = ',' then some ⟨.object shape members :: frames, .key⟩
    else if c = '\x7d' then some (accept frames (ofMembers members.reverse))
    else none
  | _ => none

/-- A character inside a string literal. -/
def stepText (frames : List Frame) (isKey : Bool) (codes : List Nat) (escape : Escape)
    (c : Char) : Option Reader :=
  let push (code : Nat) : Option Reader := some ⟨frames, .text isKey (code :: codes) .plain⟩
  match escape with
  | .plain =>
    if c = '"' then some (acceptText frames isKey codes)
    else if c = '\\' then some ⟨frames, .text isKey codes .backslash⟩
    else if c.toNat < 0x20 then none
    else push c.toNat
  | .backslash =>
    if c = '"' ∨ c = '\\' ∨ c = '/' then push c.toNat
    else if c = 'b' then push 8
    else if c = 'f' then push 12
    else if c = 'n' then push 10
    else if c = 'r' then push 13
    else if c = 't' then push 9
    else if c = 'u' then some ⟨frames, .text isKey codes (.code 4 0)⟩
    else none
  | .code missing value =>
    (Hex.digit? c).bind fun d =>
      if missing ≤ 1 then push (16 * value + d)
      else some ⟨frames, .text isKey codes (.code (missing - 1) (16 * value + d))⟩

/-- A character where structure is expected, blanks aside. -/
def stepNeed (frames : List Frame) (need : Need) (c : Char) : Option Reader :=
  match need with
  | .value => stepValue frames c
  | .firstItem => if c = ']' then stepSeparator frames c else stepValue frames c
  | .firstKey =>
    if c = '\x7d' then stepSeparator frames c
    else if c = '"' then some ⟨frames, .text true [] .plain⟩
    else none
  | .key => if c = '"' then some ⟨frames, .text true [] .plain⟩ else none
  | .colon key =>
    match frames with
    | .object shape members :: frames =>
      if c = ':' then some ⟨.member shape members key :: frames, .value⟩ else none
    | _ => none
  | .separator => stepSeparator frames c
  | _ => none

/-- A number is complete. -/
def acceptNumber (frames : List Frame) (chars : List Char) : Option Reader :=
  (Numeral.parse? chars.reverse).map fun x => accept frames (.number x)

/-- A character where blanks may stand. -/
def stepOpen (r : Reader) (c : Char) : Option Reader :=
  if isSpace c then some r else stepNeed r.frames r.need c

/-- A character after a complete byte string. The bracket closes the array of its bytes. -/
def stepExcess (frames : List Frame) (state : Excess) (c : Char) : Option Reader :=
  (state.step c).bind fun state =>
    match state with
    | .closed => stepSeparator frames ']'
    | _ => some ⟨frames, .excess state⟩

/-- Take in one character. -/
def step (r : Reader) (c : Char) : Option Reader :=
  match r.need with
  | .text isKey codes escape => stepText r.frames isKey codes escape c
  | .number chars =>
    if isNumberChar c then some ⟨r.frames, .number (c :: chars)⟩
    else (acceptNumber r.frames chars).bind (stepOpen · c)
  | .word (d :: missing) value =>
    if c = d then
      if missing = [] then some (accept r.frames value)
      else some ⟨r.frames, .word missing value⟩
    else none
  | .excess state => stepExcess r.frames state c
  | _ => stepOpen r c

/-- The value of a document that ends here. -/
def finish (r : Reader) : Option Json :=
  match r.frames, r.need with
  | _, .done value => some value
  | [.document _], .number chars => (Numeral.parse? chars.reverse).map .number
  | _, _ => none

end Reader

/-- Read a whole document of a shape. -/
def parseAs? (shape : Shape) (text : String) : Option Json :=
  (text.toList.foldlM Reader.step (Reader.start shape)).bind Reader.finish

/-- Read a whole document of any shape. -/
def parse? (text : String) : Option Json :=
  parseAs? .any text

end Json

end Rollout
