import Rollout.Abi.Ty
import Rollout.Text.Bracketed

/-!
# Written types

Interfaces and signatures write a type as a name or a tuple in parentheses, followed by array
sizes. A written type need not exist: its name is looked up only when the type is used.
-/

namespace Rollout

/-- A type as it is written, with its array sizes, the innermost one first. -/
inductive TypeText where
  | named (name : String) (sizes : List (Option Nat))
  | tuple (items : List TypeText) (sizes : List (Option Nat))

namespace TypeText

/-- The character may begin an identifier. -/
def isIdentifierStart (c : Char) : Bool :=
  c.isAlpha || c == '_' || c == '$'

/-- The character may stand inside an identifier. -/
def isIdentifierRest (c : Char) : Bool :=
  c.isAlphanum || c == '_' || c == '$'

/-- The whole text is an identifier. -/
def isIdentifier (text : List Char) : Bool :=
  match text with
  | [] => false
  | c :: rest => isIdentifierStart c && rest.all isIdentifierRest

/-- The identifier at the front of a text. -/
def readIdentifier? : List Char → Option (List Char × List Char)
  | [] => none
  | c :: text =>
    if isIdentifierStart c then
      some (c :: text.takeWhile isIdentifierRest, text.dropWhile isIdentifierRest)
    else none

/-- The name of a type at the front of a text. A name that is qualified by a contract stands for
an enumeration, which has eight bits, and integers without a size have 256. Behind the point the
identifier may be missing, and a second point does not belong to the name. -/
def readName? (text : List Char) : Option (String × List Char) :=
  (readIdentifier? text).map fun (name, rest) =>
    match rest with
    | '.' :: rest => ("uint8", ((readIdentifier? rest).map (·.2)).getD rest)
    | _ =>
      let name := String.ofList name
      (if name = "uint" then "uint256" else if name = "int" then "int256" else name, rest)

/-- The array sizes at the front of a text, as many as `fuel` at most. A size that is given is
positive and has at most 64 bits. -/
def readSizes : (fuel : Nat) → List Char → List (Option Nat) × List Char
  | fuel + 1, '[' :: text =>
    let digits := text.takeWhile Char.isDigit
    match text.dropWhile Char.isDigit with
    | ']' :: rest =>
      let size := Ty.size? digits
      if size.all fun n => 0 < n && n < Nat.pow 2 64 then
        let (sizes, rest) := readSizes fuel rest
        (size :: sizes, rest)
      else ([], '[' :: text)
    | _ => ([], '[' :: text)
  | _, text => ([], text)

/-- The items of a tuple behind its parenthesis, with or without the word in front. -/
def tupleItems? : List Char → Option (List Char)
  | '(' :: text => some text
  | 't' :: 'u' :: 'p' :: 'l' :: 'e' :: '(' :: text => some text
  | _ => none

/-- A named type at the front of a text. -/
def readNamed? : TextReader TypeText := fun text =>
  (readName? text).map fun (name, rest) =>
    let (sizes, rest) := readSizes rest.length rest
    (.named name sizes, rest)

/-- A type at the front of a text whose tuple items may stand in `levels` further lists. -/
def read? : (levels : Nat) → TextReader TypeText
  | levels, text =>
    match tupleItems? text with
    | none => readNamed? text
    | some text => do
      let (items, rest) ←
        readBracketed ')' (match levels with | 0 => fun _ => none | n + 1 => read? n) text
      let (sizes, rest) := readSizes rest.length rest
      return (.tuple items sizes, rest)

/-- A text that is one type as a whole. -/
def parse? (s : String) : Option TypeText :=
  (read? maxNesting s.toList).bind fun (ty, rest) => if rest = [] then some ty else none

/-- The text of array sizes. -/
def sizesText (sizes : List (Option Nat)) : String :=
  String.join (sizes.map fun size => "[" ++ size.elim "" toString ++ "]")

/-- The array sizes of a written type. -/
def sizes : TypeText → List (Option Nat)
  | .named _ sizes => sizes
  | .tuple _ sizes => sizes

mutual

/-- The type that a written type means, if all its names exist. -/
def resolve? : TypeText → Option Ty
  | .named name sizes => (Ty.ofName? name).map (·.withSizes sizes)
  | .tuple items sizes => (resolveAll? items).map fun items => (Ty.tuple items).withSizes sizes

/-- The types of the items of a tuple. -/
def resolveAll? : List TypeText → Option (List Ty)
  | [] => some []
  | item :: items => do
    let ty ← resolve? item
    let tys ← resolveAll? items
    return ty :: tys

end

end TypeText

end Rollout
