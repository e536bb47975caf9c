import Rollout.Address
import Rollout.Json.Reader
import Rollout.Json.Basic
import Rollout.Uint256

/-!
# Arguments

The arguments of constructors and calls are declared without types: an argument may name another
unit or the deployer, whose addresses are known only when the argument is used.
-/

namespace Rollout

/-- A declared argument. -/
inductive Argument where
  /-- The address of another unit. -/
  | unit (name : String)
  /-- The address of the account that deploys. -/
  | deployer
  | address (value : Address)
  | uint (value : Uint256)
  | string (value : String)
  | bool (value : Bool)
  deriving DecidableEq

/-- An argument whose addresses are known. -/
inductive ResolvedArgument where
  | address (value : Address)
  | uint (value : Uint256)
  | string (value : String)
  | bool (value : Bool)
  deriving DecidableEq

namespace Argument

/-- The unit that an argument refers to. -/
def unit? : Argument → Option String
  | .unit name => some name
  | _ => none

/-- Replace a reference by the address it stands for. -/
def resolve {ε : Type} (deployer : Address) (lookup : String → Except ε Address) :
    Argument → Except ε ResolvedArgument
  | .unit name => (lookup name).map .address
  | .deployer => .ok (.address deployer)
  | .address a => .ok (.address a)
  | .uint v => .ok (.uint v)
  | .string s => .ok (.string s)
  | .bool b => .ok (.bool b)

/-- Replace all references in order; the first one that has no address decides the failure. -/
def resolveAll {ε : Type} (deployer : Address) (lookup : String → Except ε Address)
    (arguments : List Argument) : Except ε (List ResolvedArgument) :=
  arguments.mapM (resolve deployer lookup)

end Argument

/-- A byte in a document. -/
def Json.byte? (j : Json) : Option UInt8 :=
  j.nat?.bind fun byte => if byte < 256 then some (UInt8.ofNat byte) else none

/-- The `n` bytes of an array. One more item, which is no byte, may follow them. -/
def FixedBytes.ofItems? {n : Nat} (items : List Json) : Option (FixedBytes n) :=
  match items.drop n with
  | [] => (items.mapM Json.byte?).bind ofList?
  | [excess] => if excess.byte?.isNone then ((items.take n).mapM Json.byte?).bind ofList? else none
  | _ => none

/-- A byte string in a document: its text, or an array of its bytes. -/
def FixedBytes.ofJson? {n : Nat} : Json → Option (FixedBytes n)
  | .string s => FixedBytes.parse? s
  | .array items => FixedBytes.ofItems? items
  | _ => none

/-- An amount in a document: its text, or a natural literal of at most 64 bits. -/
def Uint256.ofJson? : Json → Option Uint256
  | .string s => Uint256.parse? s
  | j => j.uint64?.bind fun n => Uint256.ofNat? n.toNat

namespace Argument

/-- The shape of an argument. -/
def shape : Json.Shape := .record [("address", .bytes 20)]

/-- Read an argument: the word for the deployer, or an object with the argument's kind as its only
key. -/
def ofJson? : Json → Option Argument
  | .string "deployer" => some .deployer
  | .object [("deployer", .null)] => some .deployer
  | .object [("unit", .string name)] => some (.unit name)
  | .object [("address", j)] => (FixedBytes.ofJson? j).map .address
  | .object [("uint", j)] => (Uint256.ofJson? j).map .uint
  | .object [("string", .string s)] => some (.string s)
  | .object [("bool", .bool b)] => some (.bool b)
  | _ => none

/-- Read the text of a list of arguments. -/
def parseAll? (text : String) : Option (List Argument) :=
  (Json.parseAs? (.list shape) text).bind (Json.list? ofJson?)

/-- The written form of an argument. -/
def toJson : Argument → Json
  | .unit name => .object [("unit", .string name)]
  | .deployer => .string "deployer"
  | .address a => .object [("address", .string a.text)]
  | .uint v => .object [("uint", .string v.hex)]
  | .string s => .object [("string", .string s)]
  | .bool b => .object [("bool", .bool b)]

end Argument

end Rollout
