import Rollout.Abi.Interface
import Rollout.Abi.Literal
import Rollout.Abi.Signature
import Rollout.Manifest.Argument
import Rollout.Text.Quoted

/-!
# Encoding arguments

Arguments become values of the parameter types. An argument that already has the kind of its
parameter is taken as it is; any other one is written as text and read as a literal of the type.
-/

namespace Rollout

/-- Why arguments cannot be encoded. -/
inductive EncodingError where
  | argumentCount (expected given : Nat)
  | unsupportedType (type : String)
  /-- The number needs more than the bits of the parameter's type. -/
  | tooManyBits (parameter : String) (type : Ty) (value : Uint256) (bits : Nat)
  | notALiteral (parameter : String) (type : Ty)
  | noConstructor (given : Nat)
  /-- The values do not have the shapes of the parameters. -/
  | shapeMismatch
  /-- The text is no signature of a function. -/
  | invalidSignature (text : String)

/-- The wording of an encoding error. -/
def EncodingError.message : EncodingError → String
  | .argumentCount expected given => s!"expected {expected} arguments, got {given}"
  | .unsupportedType type => s!"unsupported parameter type '{type}': {detail}"
  | .tooManyBits parameter type value bits =>
    s!"argument '{parameter}' is not a valid {type.text}: " ++
      s!"{value.decimal} does not fit in {bits} bits"
  | .notALiteral parameter type =>
    s!"argument '{parameter}' is not a valid {type.text}: {detail}"
  | .noConstructor given => s!"contract has no constructor but {given} arguments were given"
  | .shapeMismatch => s!"encoding failed: {detail}"
  | .invalidSignature text => s!"invalid function signature '{text}': {detail}"

namespace ResolvedArgument

/-- The text of an argument. -/
def text : ResolvedArgument → String
  | .address a => a.checksum
  | .uint v => v.decimal
  | .string s => s
  | .bool true => "true"
  | .bool false => "false"

/-- The value of an argument for a parameter. -/
def coerce (parameter : String) (type : Ty) (argument : ResolvedArgument) :
    Except EncodingError Value :=
  match type, argument with
  | .string, .string s => .ok (.string s)
  | .address, .address a => .ok (.address a)
  | .bool, .bool b => .ok (.bool b)
  | .uint bits, .uint v =>
    if v.toNat < Nat.pow 2 bits then .ok (.uint v bits)
    else .error (.tooManyBits parameter type v bits)
  | _, _ =>
    match Literal.parse? type argument.text with
    | some value => .ok value
    | none => .error (.notALiteral parameter type)

/-- The value of an argument for a parameter whose type still has to be looked up. -/
def coerceFor (parameter : Parameter) (argument : ResolvedArgument) : Except EncodingError Value :=
  match parameter.resolve? with
  | some type => argument.coerce parameter.name type
  | none => .error (.unsupportedType parameter.type)

/-- The values of a list of arguments, one for each parameter. -/
def coerceAll (parameters : List Parameter) (arguments : List ResolvedArgument) :
    Except EncodingError (List Value) :=
  if parameters.length = arguments.length then
    (parameters.zip arguments).mapM fun (parameter, argument) => argument.coerceFor parameter
  else .error (.argumentCount parameters.length arguments.length)

end ResolvedArgument

/-- The encoding of values that have the shapes of the parameters. -/
def encodeValues (parameters : List Parameter) (values : List Value) :
    Except EncodingError (List UInt8) :=
  match Parameter.resolveAll? parameters with
  | some types =>
    if Value.fitEach types values then .ok (Value.encode values) else .error .shapeMismatch
  | none => .error .shapeMismatch

/-- The encoding of arguments for parameters. -/
def encodeArguments (parameters : List Parameter) (arguments : List ResolvedArgument) :
    Except EncodingError (List UInt8) :=
  (ResolvedArgument.coerceAll parameters arguments).bind (encodeValues parameters)

/-- The encoded constructor arguments. A contract without a constructor takes none. -/
def Interface.encodeConstructor (i : Interface) (arguments : List ResolvedArgument) :
    Except EncodingError (List UInt8) :=
  match i.constructor? with
  | some parameters => encodeArguments parameters arguments
  | none => if arguments = [] then .ok [] else .error (.noConstructor arguments.length)

namespace Signature

/-- The signature that a text spells. -/
def ofText (text : String) : Except EncodingError Signature :=
  match parse? text with
  | some f => .ok f
  | none => .error (.invalidSignature text)

/-- The encoded call: the selector and the arguments. -/
def encodeCall (f : Signature) (arguments : List ResolvedArgument) :
    Except EncodingError (List UInt8) :=
  (encodeArguments f.inputs arguments).map (f.selector.bytes ++ ·)

end Signature

end Rollout
