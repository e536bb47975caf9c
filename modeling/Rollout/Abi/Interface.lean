import Rollout.Abi.Parameter
import Rollout.Json.Document

/-!
# Contract interfaces

A compiled contract lists the items of its interface. Each item is an object that names its kind;
events and errors may also be arrays of the kind and all fields in their order. Of a correct list
only the parameters of the constructor are kept.
-/

namespace Rollout

/-- What is kept of an interface: the parameters of its constructor, if it has one. -/
structure Interface where
  constructor? : Option (List Parameter)

namespace Interface

/-- The interface without any item. -/
def empty : Interface := ⟨none⟩

/-- The field is missing, null or a truth value. -/
def isFlag : Option Json → Bool
  | none | some .null | some (.bool _) => true
  | _ => false

/-- The field is missing or null. -/
def isAbsent : Option Json → Bool
  | none | some .null => true
  | _ => false

/-- The word says how an item treats the state. -/
def isMutabilityName (name : String) : Bool :=
  name = "pure" || name = "view" || name = "nonpayable" || name = "payable"

/-- The value stands for nothing: null or an object without members. -/
def isUnit : Json → Bool
  | .null | .object [] => true
  | _ => false

/-- The field is missing or null, or it gives a state mutability: its name, or an object whose only
key is the name and whose value stands for nothing. -/
def isMutability : Option Json → Bool
  | none | some .null => true
  | some (.string name) => isMutabilityName name
  | some (.object members) =>
    match Json.sortedMembers members with
    | [(name, value)] => isMutabilityName name && isUnit value
    | _ => false
  | _ => false

/-- The item says how it treats the state in the present way or in one of the two older ways. The
older ways contradict each other when both are claimed and the present one is missing. -/
def hasMutability (item : Json) : Bool :=
  let mutability := item.get? "stateMutability"
  let payable := item.get? "payable"
  let constant := item.get? "constant"
  let claims (flag : Option Json) : Bool := (flag.bind Json.bool?).getD false
  isMutability mutability && isFlag payable && isFlag constant &&
    !(isAbsent mutability && claims payable && claims constant)

/-- The value is an identifier or the empty name. -/
def isName (value : Option Json) : Bool :=
  match value.bind Json.string? with
  | some name => name = "" || TypeText.isIdentifier name.toList
  | none => false

/-- The parameters that a value lists. -/
def parameters? (value : Option Json) : Option (List Parameter) :=
  value.bind Parameter.readList?

/-- The value lists correct parameters of an event. -/
def areEventParameters (value : Option Json) : Bool :=
  match value.bind Json.items? with
  | some items => items.all fun parameter => (Parameter.read? isFlag parameter).isSome
  | none => false

/-- These are the fields of a correct event. -/
def isEvent (name inputs anonymous : Option Json) : Bool :=
  isName name && areEventParameters inputs && (anonymous.bind Json.bool?).isSome

/-- These are the fields of a correct error. -/
def isError (name inputs : Option Json) : Bool :=
  isName name && (parameters? inputs).isSome

/-- The item is a correct function. -/
def isFunction (item : Json) : Bool :=
  hasMutability item && isName (item.get? "name") && (parameters? (item.get? "inputs")).isSome &&
    (parameters? (item.get? "outputs")).isSome

/-- The items of which an interface has at most one. -/
structure Singles where
  constructor? : Option (List Parameter)
  hasFallback : Bool
  hasReceive : Bool

/-- Take in an item that is an object, by the kind it names. -/
def addObject (s : Singles) (item : Json) : Option Singles :=
  match (item.get? "type").bind Json.string? with
  | some "constructor" =>
    (parameters? (item.get? "inputs")).bind fun inputs =>
      if hasMutability item && s.constructor?.isNone then
        some { s with constructor? := some inputs }
      else none
  | some "fallback" =>
    if hasMutability item && !s.hasFallback then some { s with hasFallback := true } else none
  | some "receive" =>
    if hasMutability item && !s.hasReceive then some { s with hasReceive := true } else none
  | some "function" => if isFunction item then some s else none
  | some "event" =>
    if isEvent (item.get? "name") (item.get? "inputs") (item.get? "anonymous") then some s else none
  | some "error" =>
    if isError (item.get? "name") (item.get? "inputs") then some s else none
  | _ => none

/-- Take in the next item of the list. -/
def addItem (s : Singles) (item : Json) : Option Singles :=
  match item with
  | .array [.string "event", name, inputs, anonymous] =>
    if isEvent (some name) (some inputs) (some anonymous) then some s else none
  | .array [.string "error", name, inputs] =>
    if isError (some name) (some inputs) then some s else none
  | _ => addObject s item

/-- Read an interface. -/
def ofJson? (j : Json) : Option Interface :=
  (j.items?.bind (·.foldlM addItem ⟨none, false, false⟩)).map fun s => ⟨s.constructor?⟩

end Interface

end Rollout
