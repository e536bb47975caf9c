/-!
# Types of the contract interface

The types of constructor and function parameters, and the text that messages give for them.
-/

namespace Rollout

/-- A type of values that contracts take. -/
inductive Ty where
  | bool
  | address
  | function
  | string
  | bytes
  /-- A byte string of the given length. -/
  | fixedBytes (length : Nat)
  /-- Unsigned integers of the given number of bits. -/
  | uint (bits : Nat)
  /-- Signed integers of the given number of bits. -/
  | int (bits : Nat)
  | array (item : Ty)
  | fixedArray (item : Ty) (length : Nat)
  | tuple (items : List Ty)

namespace Ty

mutual

/-- The text of a type. -/
def text : Ty → String
  | .bool => "bool"
  | .address => "address"
  | .function => "function"
  | .string => "string"
  | .bytes => "bytes"
  | .fixedBytes length => s!"bytes{length}"
  | .uint bits => s!"uint{bits}"
  | .int bits => s!"int{bits}"
  | .array item => s!"{item.text}[]"
  | .fixedArray item length => s!"{item.text}[{length}]"
  | .tuple [] => "()"
  | .tuple [item] => s!"({item.text},)"
  | .tuple (item :: items) => s!"({item.text}{restText items})"

/-- The texts of the items of a tuple after the first one. -/
def restText : List Ty → String
  | [] => ""
  | item :: items => s!",{item.text}{restText items}"

end

/-- The number of a size that stands after the name of a type. -/
def size? (digits : List Char) : Option Nat :=
  if digits ≠ [] ∧ digits.all Char.isDigit then
    some (digits.foldl (fun n c => 10 * n + (c.toNat - '0'.toNat)) 0)
  else none

/-- The number of bits of an integer type: a multiple of eight from 8 to 256. -/
def bits? (digits : List Char) : Option Nat :=
  (size? digits).filter fun n => 0 < n ∧ n ≤ 256 ∧ n % 8 = 0

/-- The length of a byte string type: from 1 to 32. -/
def length? (digits : List Char) : Option Nat :=
  (size? digits).filter fun n => 0 < n ∧ n ≤ 32

/-- The type with a name, if there is one. -/
def ofName? (name : String) : Option Ty :=
  match name.toList with
  | ['b', 'o', 'o', 'l'] => some .bool
  | ['a', 'd', 'd', 'r', 'e', 's', 's'] => some .address
  | ['f', 'u', 'n', 'c', 't', 'i', 'o', 'n'] => some .function
  | ['s', 't', 'r', 'i', 'n', 'g'] => some .string
  | ['b', 'y', 't', 'e', 's'] => some .bytes
  | 'b' :: 'y' :: 't' :: 'e' :: 's' :: digits => (length? digits).map .fixedBytes
  | 'u' :: 'i' :: 'n' :: 't' :: digits => (bits? digits).map .uint
  | 'i' :: 'n' :: 't' :: digits => (bits? digits).map .int
  | _ => none

/-- The type of arrays of these sizes, the innermost size first. -/
def withSizes (item : Ty) (sizes : List (Option Nat)) : Ty :=
  sizes.foldl (fun ty size => size.elim (.array ty) (.fixedArray ty)) item

end Ty

end Rollout
