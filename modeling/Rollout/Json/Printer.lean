import Rollout.Json.Basic

/-!
# JSON text

Values are written either on one line without blanks or spread over lines with two blanks for
each level. A string escapes its quotation marks, its backslashes and its control characters.
-/

namespace Rollout.Json

/-- One character inside a string. -/
def escape (c : Char) : List Char :=
  if c = '"' then ['\\', '"']
  else if c = '\\' then ['\\', '\\']
  else if c = '\n' then ['\\', 'n']
  else if c = '\r' then ['\\', 'r']
  else if c = '\t' then ['\\', 't']
  else if c.toNat = 8 then ['\\', 'b']
  else if c.toNat = 12 then ['\\', 'f']
  else if c.toNat < 0x20 then
    ['\\', 'u', '0', '0', Nat.digitChar (c.toNat / 16), Nat.digitChar (c.toNat % 16)]
  else [c]

/-- A string between its quotation marks. -/
def quote (text : List Char) : List Char :=
  '"' :: text.flatMap escape ++ ['"']

/-- An integer, with its sign when it is negative. -/
def integer (n : Int) : List Char :=
  (if n < 0 then ['-'] else []) ++ Decimal.digits n.natAbs

/-- The digits with a point before the last `places` of them. -/
def withPoint (digits places : Nat) : List Char :=
  let unit := Nat.pow 10 places
  let fraction := Decimal.digits (digits % unit)
  Decimal.digits (digits / unit) ++ '.' :: List.replicate (places - fraction.length) '0' ++
    fraction

/-- A number in the notation that it keeps. -/
def numeral (x : Numeral) : List Char :=
  (if x.negative then ['-'] else []) ++
    (match x.places with
      | none => Decimal.digits x.digits
      | some places => withPoint x.digits places) ++
    (match x.exponent with
      | none => []
      | some e => 'e' :: integer e)

/-- How items are set apart: the text before each item at a level and before the closing bracket,
and the text between a key and its value. -/
structure Layout where
  /-- The break before what stands at a level. -/
  newline : Nat → List Char
  /-- What follows a key. -/
  colon : List Char

/-- Everything on one line. -/
def Layout.compact : Layout where
  newline _ := []
  colon := [':']

/-- One item a line, two blanks for each level. -/
def Layout.pretty : Layout where
  newline level := '\n' :: List.replicate (2 * level) ' '
  colon := [':', ' ']

mutual

/-- The text of a value at a level. -/
def write (layout : Layout) (level : Nat) : Json → List Char
  | .null => "null".toList
  | .bool true => "true".toList
  | .bool false => "false".toList
  | .number x => numeral x
  | .string s => quote s.toList
  | .array [] => ['[', ']']
  | .array (item :: items) =>
    '[' :: layout.newline (level + 1) ++ write layout (level + 1) item ++
      writeItems layout level items
  | .object [] => ['\x7b', '\x7d']
  | .object ((key, item) :: members) =>
    '\x7b' :: layout.newline (level + 1) ++ quote key.toList ++ layout.colon ++
      write layout (level + 1) item ++ writeMembers layout level members
  | .unreadable => "null".toList

/-- The items of an array after the first one, and the closing bracket. -/
def writeItems (layout : Layout) (level : Nat) : List Json → List Char
  | [] => layout.newline level ++ [']']
  | item :: items =>
    ',' :: layout.newline (level + 1) ++ write layout (level + 1) item ++
      writeItems layout level items

/-- The members of an object after the first one, and the closing bracket. -/
def writeMembers (layout : Layout) (level : Nat) : List (String × Json) → List Char
  | [] => layout.newline level ++ ['\x7d']
  | (key, item) :: members =>
    ',' :: layout.newline (level + 1) ++ quote key.toList ++ layout.colon ++
      write layout (level + 1) item ++ writeMembers layout level members

end

/-- The text on one line. -/
def compact (j : Json) : String :=
  String.ofList (write .compact 0 j)

/-- The text spread over lines. -/
def pretty (j : Json) : String :=
  String.ofList (write .pretty 0 j)

end Rollout.Json
