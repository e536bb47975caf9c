import Rollout.Json.Basic
import Rollout.Text.Numerals

/-!
# What follows a complete byte string

The array of a byte string is complete after its last byte. When a comma follows all the same, one
more byte makes the array too long, and anything that cannot be read as a byte is given up where
its reading fails. Only the closing bracket can follow then, and the array stands as it was before
the comma.

Reading a text takes the character that it fails at, so this character is missing from what
follows, even if it is the bracket. Only a whole character can be taken in this way: one of several
bytes is cut apart, which no bracket can follow.
-/

namespace Rollout

/-- The characters that may stand around values. -/
def Json.isSpace (c : Char) : Bool :=
  c == ' ' || c == '\t' || c == '\n' || c == '\r'

namespace Json

/-- How far the value behind the comma has been read. A number remembers whether it is negative
and, as far as that matters, its value. -/
inductive Excess where
  /-- Behind the comma. -/
  | start
  /-- Behind a minus. -/
  | minus
  /-- Behind a leading zero. -/
  | zero (negative : Bool)
  /-- Inside the digits of a whole number, whose value is kept up to 256. -/
  | whole (negative : Bool) (value : Nat)
  /-- Behind the point. -/
  | point (isZero : Bool)
  /-- Inside the digits behind the point. -/
  | fraction (isZero : Bool)
  /-- Behind the mark of the exponent. -/
  | mark (isZero : Bool)
  /-- Behind the sign of the exponent. -/
  | sign (isZero negative : Bool)
  /-- Inside the digits of the exponent. -/
  | exponent (isZero negative : Bool) (value : Nat)
  /-- Inside the digits of an exponent that no longer counts. -/
  | remainder
  /-- Inside a word, of which these characters are missing. -/
  | word (missing : List Char)
  /-- Inside a string. -/
  | text
  /-- Behind a backslash. -/
  | backslash
  /-- Inside the four bytes of a code; the value is lost when one of them is no digit. -/
  | code (isSecond : Bool) (missing : Nat) (value : Option Nat)
  /-- Behind the first code of a pair. -/
  | pair
  /-- Behind the backslash between the codes of a pair. -/
  | pairBackslash
  /-- Behind all that is taken; the bracket has to come. -/
  | closing
  /-- Behind the bracket. -/
  | closed

namespace Excess

/-- A character that nothing expects. It is taken when it is a single byte. -/
def giveUp (c : Char) : Option Excess :=
  if c.toNat < 0x80 then some .closing else none

/-- A character behind all that is taken. -/
def close (c : Char) : Option Excess :=
  if isSpace c then some .closing else if c = ']' then some .closed else none

/-- A character behind a complete number. A byte makes the array too long. -/
def endWhole (negative : Bool) (value : Nat) (c : Char) : Option Excess :=
  if negative = false ∧ value < 256 then none else close c

/-- The value of a digit. -/
def digitValue (c : Char) : Nat :=
  c.toNat - '0'.toNat

/-- The character marks an exponent. -/
def isMark (c : Char) : Bool :=
  c == 'e' || c == 'E'

/-- A digit of an exponent. One of more than 31 bits is given up if the number would be too large,
and does not count any more otherwise. -/
def addDigit (isZero negative : Bool) (value : Nat) (c : Char) : Excess :=
  let value := 10 * value + digitValue c
  if value < Nat.pow 2 31 then .exponent isZero negative value
  else if isZero || negative then .remainder
  else .closing

/-- A character behind the comma. -/
def begin (c : Char) : Option Excess :=
  if isSpace c then some .start
  else if c = ']' then some .closed
  else if c = '-' then some .minus
  else if c = '0' then some (.zero false)
  else if c.isDigit then some (.whole false (digitValue c))
  else if c = '"' then some .text
  else if c = 'n' then some (.word ['u', 'l', 'l'])
  else if c = 't' then some (.word ['r', 'u', 'e'])
  else if c = 'f' then some (.word ['a', 'l', 's', 'e'])
  else none

/-- A complete code of a string: the first one of a pair asks for the second one, and only a pair
may hold codes of pairs. -/
def endCode (isSecond : Bool) (value : Option Nat) : Excess :=
  match value with
  | none => .closing
  | some n =>
    let isLow : Bool := 0xdc00 ≤ n && n < 0xe000
    if isSecond then (if isLow then .text else .closing)
    else if isLow then .closing
    else if 0xd800 ≤ n && n < 0xdc00 then .pair
    else .text

/-- A character of a code, which takes as many of the missing bytes as it has. -/
def addCode (isSecond : Bool) (missing : Nat) (value : Option Nat) (c : Char) : Option Excess :=
  let value := value.bind fun n => (Hex.digit? c).map (16 * n + ·)
  if missing < c.utf8Size then none
  else if missing = c.utf8Size then some (endCode isSecond value)
  else some (.code isSecond (missing - c.utf8Size) value)

/-- Take in one character. -/
def step (e : Excess) (c : Char) : Option Excess :=
  match e with
  | .start => begin c
  | .minus =>
    if c = '0' then some (.zero true)
    else if c.isDigit then some (.whole true (digitValue c))
    else giveUp c
  | .zero negative =>
    if c.isDigit then none
    else if c = '.' then some (.point true)
    else if isMark c then some (.mark true)
    else endWhole negative 0 c
  | .whole negative value =>
    if c.isDigit then some (.whole negative (min 256 (10 * value + digitValue c)))
    else if c = '.' then some (.point false)
    else if isMark c then some (.mark false)
    else endWhole negative value c
  | .point isZero => if c.isDigit then some (.fraction (isZero && c == '0')) else close c
  | .fraction isZero =>
    if c.isDigit then some (.fraction (isZero && c == '0'))
    else if isMark c then some (.mark isZero)
    else close c
  | .mark isZero =>
    if c = '+' ∨ c = '-' then some (.sign isZero (c == '-'))
    else if c.isDigit then some (addDigit isZero false 0 c)
    else giveUp c
  | .sign isZero negative =>
    if c.isDigit then some (addDigit isZero negative 0 c) else giveUp c
  | .exponent isZero negative value =>
    if c.isDigit then some (addDigit isZero negative value c) else close c
  | .remainder => if c.isDigit then some .remainder else close c
  | .word [] => close c
  | .word (d :: missing) =>
    if c = d then some (if missing = [] then .closing else .word missing) else giveUp c
  | .text =>
    if c = '"' then some .closing
    else if c = '\\' then some .backslash
    else if c.toNat < 0x20 then some .closing
    else some .text
  | .backslash =>
    if c ∈ ['"', '\\', '/', 'b', 'f', 'n', 'r', 't'] then some .text
    else if c = 'u' then some (.code false 4 (some 0))
    else giveUp c
  | .code isSecond missing value => addCode isSecond missing value c
  | .pair => if c = '\\' then some .pairBackslash else giveUp c
  | .pairBackslash => if c = 'u' then some (.code true 4 (some 0)) else giveUp c
  | .closing => close c
  | .closed => none

end Excess

end Json

end Rollout
