import Rollout.Abi.TypeText
import Rollout.Json.Basic

/-!
# Parameters

A parameter has a written type and perhaps a name. The components of a tuple may be listed as
parameters of their own, in which case the written type says only `tuple` and its array sizes.
-/

namespace Rollout

/-- A parameter of a constructor or a function. -/
structure Parameter where
  /-- The written type. -/
  type : String
  /-- The name, empty when there is none. -/
  name : String
  components : List Parameter

namespace Parameter

/-- The word in front of the type of listed components. -/
def tupleWord : List Char := ['t', 'u', 'p', 'l', 'e']

/-- The written type can be used with these components: it is a tuple if there are any, and a
correct type text otherwise. -/
def isWellFormed (type : String) (components : List Parameter) : Bool :=
  if components.isEmpty then (TypeText.parse? type).isSome
  else tupleWord.isPrefixOf type.toList

/-- A parameter from the values of its fields, of which only the type is required. -/
def ofFields? (name type internalType : Option Json) (components : Option (List Parameter)) :
    Option Parameter := do
  let name ← Json.orMissing "" Json.string? name
  let type ← type.bind Json.string?
  let _ ← Json.orNull Json.string? internalType
  let components ← components
  if (name = "" ∨ TypeText.isIdentifier name.toList = true) ∧ isWellFormed type components = true
  then some { type, name, components }
  else none

mutual

/-- Read a parameter: an object, or an array of its fields, of which only the name and the type
have to be there. Whether it is indexed, which only events can say, is judged by `indexed`. -/
def read? (indexed : Option Json → Bool) : Json → Option Parameter
  | .object members =>
    let field (key : String) : Option Json := (Json.object members).get? key
    if indexed (field "indexed") then
      ofFields? (field "name") (field "type") (field "internalType")
        ((componentsIn members).getD (some []))
    else none
  | .array [name, type] => ofFields? (some name) (some type) none (some [])
  | .array [name, type, flag] =>
    if indexed (some flag) then ofFields? (some name) (some type) none (some []) else none
  | .array [name, type, flag, internalType] =>
    if indexed (some flag) then ofFields? (some name) (some type) (some internalType) (some [])
    else none
  | .array [name, type, flag, internalType, components] =>
    if indexed (some flag) then
      ofFields? (some name) (some type) (some internalType) (readList? components)
    else none
  | _ => none

/-- Read an array of components, none of which can be indexed. -/
def readList? : Json → Option (List Parameter)
  | .array items => readItems? items
  | _ => none

/-- Read components one after the other. -/
def readItems? : List Json → Option (List Parameter)
  | [] => some []
  | item :: items => do
    let parameter ← read? (fun flag => flag matches none | some .null) item
    let parameters ← readItems? items
    return parameter :: parameters

/-- The components among the members of an object, if there are any. The last member counts. -/
def componentsIn : List (String × Json) → Option (Option (List Parameter))
  | [] => none
  | (key, value) :: members =>
    match componentsIn members with
    | some components => some components
    | none => if key = "components" then some (readList? value) else none

end

mutual

/-- The type with its components spelled out. -/
def typeText : Parameter → String
  | ⟨type, _, []⟩ => type
  | ⟨type, _, component :: components⟩ =>
    let sizes := String.ofList (type.toList.drop tupleWord.length)
    s!"({component.typeText}{restText components}){sizes}"

/-- The types of the components after the first one. -/
def restText : List Parameter → String
  | [] => ""
  | component :: components => s!",{component.typeText}{restText components}"

end

mutual

/-- The type of the values that a parameter takes, if it exists. -/
def resolve? : Parameter → Option Ty
  | ⟨type, _, []⟩ => (TypeText.parse? type).bind TypeText.resolve?
  | ⟨type, _, component :: components⟩ => do
    let written ← TypeText.parse? type
    let item ← resolve? component
    let items ← resolveAll? components
    return (Ty.tuple (item :: items)).withSizes written.sizes

/-- The types of several components. -/
def resolveAll? : List Parameter → Option (List Ty)
  | [] => some []
  | component :: components => do
    let item ← resolve? component
    let items ← resolveAll? components
    return item :: items

end

mutual

/-- The parameter of a written type; the items of a tuple become its components. -/
def ofTypeText (name : String) : TypeText → Parameter
  | .named type sizes => ⟨type ++ TypeText.sizesText sizes, name, []⟩
  | .tuple items sizes =>
    ⟨String.ofList tupleWord ++ TypeText.sizesText sizes, name, ofTypeTexts items⟩

/-- The nameless parameters of several written types. -/
def ofTypeTexts : List TypeText → List Parameter
  | [] => []
  | item :: items => ofTypeText "" item :: ofTypeTexts items

end

end Parameter

end Rollout
