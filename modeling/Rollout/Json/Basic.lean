import Rollout.Text.Numerals

/-!
# JSON values

Manifests, artifacts and session files are JSON documents. A value keeps the members of an object
in the order of the document and a number as it is written, because the readers of documents tell
`1` from `1.0`.

A record is an object whose members are its fields, in any order and with other members ignored,
or an array of its fields in their declared order, of which the last ones may be left out.

A document that is read for a known purpose has a shape, which says at which places byte strings
stand. Everywhere else any value may stand. The shape does not check the document; it only tells
the reader where the array of a byte string begins.
-/

namespace Rollout

/-! ## Values -/

/-- A number as it is written: its digits without the point, the number of places after the point
if there is one, and the exponent if there is one. -/
structure Numeral where
  negative : Bool
  digits : Nat
  places : Option Nat
  exponent : Option Int
  deriving DecidableEq, Repr

namespace Numeral

/-- A natural number in plain notation. -/
def ofNat (n : Nat) : Numeral :=
  ⟨false, n, none, none⟩

/-- The number that a plain literal without sign, point and exponent denotes. -/
def nat? (x : Numeral) : Option Nat :=
  if x.negative = false ∧ x.places = none ∧ x.exponent = none then some x.digits else none

end Numeral

/-- A JSON value. A string with half of a surrogate pair, or an object with such a key, is no
value that a reader can use; it stands as `unreadable`. -/
inductive Json where
  | null
  | bool (value : Bool)
  | number (value : Numeral)
  | string (value : String)
  | array (items : List Json)
  | object (members : List (String × Json))
  | unreadable

namespace Json

/-- The text of a string. -/
def string? : Json → Option String
  | .string s => some s
  | _ => none

/-- The truth value of a literal. -/
def bool? : Json → Option Bool
  | .bool b => some b
  | _ => none

/-- The number of a plain natural literal. -/
def nat? : Json → Option Nat
  | .number x => x.nat?
  | _ => none

/-- The number of a plain natural literal of at most 64 bits. -/
def uint64? (j : Json) : Option UInt64 :=
  j.nat?.bind fun n => if n < Nat.pow 2 64 then some (UInt64.ofNat n) else none

/-- The items of an array. -/
def items? : Json → Option (List Json)
  | .array items => some items
  | _ => none

/-- The members of an object. -/
def members? : Json → Option (List (String × Json))
  | .object members => some members
  | _ => none

/-- The value of a key. The last member that carries the key counts. -/
def get? (j : Json) (key : String) : Option Json :=
  j.members?.bind fun members => (members.reverse.find? (·.1 == key)).map (·.2)

/-- A natural number. -/
def ofNat (n : Nat) : Json :=
  .number (Numeral.ofNat n)

end Json

end Rollout

namespace Rollout.Json

/-! ## Records in JSON -/

/-- The values of one field among the members of an object. -/
def valuesOf (members : List (String × Json)) (field : String) : List Json :=
  (members.filter (·.1 == field)).map (·.2)

/-- A field of an object: it may be missing, and a field that comes twice is refused. -/
def field? (members : List (String × Json)) (field : String) : Option (Option Json) :=
  match valuesOf members field with
  | [] => some none
  | [value] => some (some value)
  | _ => none

/-- The values of the declared fields, each one present or missing. -/
def record? (fields : List String) : Json → Option (List (Option Json))
  | .object members => fields.mapM (field? members)
  | .array items =>
    if items.length ≤ fields.length then
      some (items.map some ++ List.replicate (fields.length - items.length) none)
    else none
  | _ => none

/-- A list whose items are all read the same way. -/
def list? {α : Type} (read : Json → Option α) (j : Json) : Option (List α) :=
  j.items?.bind (·.mapM read)

/-- A field that may be missing. -/
def orMissing {α : Type} (missing : α) (read : Json → Option α) (value : Option Json) : Option α :=
  value.elim (some missing) read

/-- A field that may be missing or null. -/
def orNull {α : Type} (read : Json → Option α) (value : Option Json) : Option (Option α) :=
  match value with
  | none | some .null => some none
  | some j => (read j).map some

/-! ## Shapes of documents -/

/-- What is expected at a place of a document. -/
inductive Shape where
  /-- Any value. -/
  | any
  /-- A byte string of this length, which may be written as an array. -/
  | bytes (length : Nat)
  /-- An array whose items have one shape. -/
  | list (item : Shape)
  /-- A record: an object, or an array of its fields in this order. -/
  | record (fields : List (String × Shape))

namespace Shape

/-- The shape of the item of an array that has `position` items before it. -/
def item (s : Shape) (position : Nat) : Shape :=
  match s with
  | .list item => item
  | .record fields => (fields[position]?.map (·.2)).getD .any
  | _ => .any

/-- The shape of the value of a key. -/
def member (s : Shape) (key : Option String) : Shape :=
  match s with
  | .record fields => ((fields.find? fun field => key = some field.1).map (·.2)).getD .any
  | _ => .any

/-- An array of this shape has all its bytes after these items. -/
def isFull {α : Type} (s : Shape) (items : List α) : Bool :=
  match s with
  | .bytes length => items.length == length
  | _ => false

end Shape

end Rollout.Json
