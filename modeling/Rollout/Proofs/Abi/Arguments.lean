import Rollout.Abi.Call
import Rollout.Proofs.Abi.PlainSignature
import Rollout.Proofs.Outcome

/-!
# Encoded arguments

Arguments are encoded when there is one for each parameter and each of them has a value of the
parameter's type. The encoding is then that of the values, for a constructor as it stands and for a
call behind the four bytes of the selector.
-/

namespace Rollout

variable {parameters : List Parameter} {arguments : List ResolvedArgument} {values : List Value}
  {data : List UInt8}

/-- The arguments are encoded for the parameters: for a constructor that has them, or for a
function, whose selector comes first. -/
inductive Encodes (parameters : List Parameter) (arguments : List ResolvedArgument) :
    List UInt8 → Prop
  | construction {data : List UInt8}
    (hencode : Interface.encodeConstructor ⟨some parameters⟩ arguments = .ok data) :
    Encodes parameters arguments data
  | call {f : Signature} {code : List UInt8} (hinputs : f.inputs = parameters)
    (hencode : f.encodeCall arguments = .ok code) : Encodes parameters arguments (code.drop 4)

/-- A plain parameter has the type that its text names. -/
theorem Parameter.resolve?_of_named {type name : String} {sizes : List (Option ℕ)} {ty : Ty}
    (hparse : TypeText.parse? type = some (.named name sizes))
    (hname : (Ty.ofName? name).map (·.withSizes sizes) = some ty) :
    (Parameter.plain type).resolve? = some ty := by
  rw [Parameter.plain, Parameter.resolve?, hparse, Option.bind_some, TypeText.resolve?, hname]

/-- The types of several parameters are the types of each. -/
theorem resolveAll?_eq_some {types : List Ty} : Parameter.resolveAll? parameters = some types ↔
    List.Forall₂ (fun parameter ty => parameter.resolve? = some ty) parameters types := by
  induction parameters generalizing types with
  | nil => simp [Parameter.resolveAll?, eq_comm]
  | cons parameter parameters ih =>
    simp only [Parameter.resolveAll?, Option.bind_eq_bind, Option.bind_eq_some_iff, Option.pure_def,
      Option.some.injEq, ih, List.forall₂_cons_left_iff]
    constructor
    · rintro ⟨ty, hty, tys, htys, rfl⟩
      exact ⟨ty, tys, hty, htys, rfl⟩
    · rintro ⟨ty, tys, hty, htys, rfl⟩
      exact ⟨ty, hty, tys, htys, rfl⟩

/-- The values of arguments are those of each argument for its parameter. -/
theorem coerceAll_eq_ok : ResolvedArgument.coerceAll parameters arguments = .ok values ↔
    parameters.length = arguments.length ∧
    List.Forall₂ (fun x value => x.2.coerceFor x.1 = .ok value) (parameters.zip arguments)
      values := by
  unfold ResolvedArgument.coerceAll
  split
  · rename_i hlength
    simp only [mapM_eq_ok, hlength, true_and]
  · rename_i hlength
    simp [hlength]

/-- Values are encoded if they have the shapes of the types. -/
theorem encodeValues_eq_ok : encodeValues parameters values = .ok data ↔
    ∃ types, Parameter.resolveAll? parameters = some types ∧ Value.fitEach types values = true ∧
      data = Value.encode values := by
  unfold encodeValues
  cases htypes : Parameter.resolveAll? parameters with
  | none => simp
  | some types =>
    simp only [Option.some.injEq, exists_eq_left']
    by_cases hfits : Value.fitEach types values = true
    · simp only [hfits, if_true, Except.ok.injEq, true_and]
      exact eq_comm
    · simp [hfits]

/-- Arguments are encoded as their values. -/
theorem encodeArguments_eq_ok : encodeArguments parameters arguments = .ok data ↔
    ∃ types values, Parameter.resolveAll? parameters = some types ∧
      ResolvedArgument.coerceAll parameters arguments = .ok values ∧
      Value.fitEach types values = true ∧ data = Value.encode values := by
  have hsteps := bind_eq_ok (x := ResolvedArgument.coerceAll parameters arguments)
    (f := encodeValues parameters) (b := data)
  refine hsteps.trans ?_
  simp only [encodeValues_eq_ok]
  constructor
  · rintro ⟨values, hvalues, types, htypes, hfits, hdata⟩
    exact ⟨types, values, htypes, hvalues, hfits, hdata⟩
  · rintro ⟨types, values, htypes, hvalues, hfits, hdata⟩
    exact ⟨values, hvalues, types, htypes, hfits, hdata⟩

/-- A call is the selector in front of the encoded arguments. -/
theorem encodeCall_eq_ok {f : Signature} {code : List UInt8} : f.encodeCall arguments = .ok code ↔
    ∃ data, encodeArguments f.inputs arguments = .ok data ∧ code = f.selector.bytes ++ data := by
  simp only [Signature.encodeCall, map_eq_ok, eq_comm (a := code)]

/-- Constructors and calls encode their arguments alike. -/
theorem encodes_iff : Encodes parameters arguments data ↔
    encodeArguments parameters arguments = .ok data := by
  constructor
  · intro hencodes
    cases hencodes with
    | construction hencode => exact hencode
    | @call f code hinputs hencode =>
      obtain ⟨data, hdata, rfl⟩ := encodeCall_eq_ok.mp hencode
      rwa [List.drop_left' f.selector.length_bytes, ← hinputs]
  · exact Encodes.construction

end Rollout
