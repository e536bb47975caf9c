import Rollout.Proofs.Abi.Arguments
import Rollout.Proofs.Abi.Decoding

/-!
# Arguments of the kinds of their parameters

A string, an address, a truth value or an amount that is given for a parameter of its own kind is
encoded as it is, without being read as a literal. Only an amount of more bits than the type has is
refused. What is encoded decodes to the same arguments, so that different arguments have different
encodings.
-/

namespace Rollout

/-- The argument is of the kind of the type. -/
inductive Ty.Takes : Ty → ResolvedArgument → Prop
  | string (s : String) : Takes .string (.string s)
  | address (a : Address) : Takes .address (.address a)
  | bool (b : Bool) : Takes .bool (.bool b)
  | uint (bits : ℕ) (v : Uint256) : Takes (.uint bits) (.uint v)

/-- The arguments can be encoded for the types: there is one for each, and no amount has more bits
than its type. -/
structure Ty.Admit (types : List Ty) (arguments : List ResolvedArgument) : Prop where
  length_eq : types.length = arguments.length
  room : ∀ bits v, (Ty.uint bits, ResolvedArgument.uint v) ∈ types.zip arguments →
    v.toNat < 2 ^ bits

/-- The value is the argument, taken as one of the type. -/
inductive ResolvedArgument.IsValue : Ty → ResolvedArgument → Value → Prop
  | string (s : String) : IsValue .string (.string s) (.string s)
  | address (a : Address) : IsValue .address (.address a) (.address a)
  | bool (b : Bool) : IsValue .bool (.bool b) (.bool b)
  | uint {bits : ℕ} {v : Uint256} (hroom : v.toNat < 2 ^ bits) :
    IsValue (.uint bits) (.uint v) (.uint v bits)

/-- The argument that a value is. -/
def Value.argument? : Value → Option ResolvedArgument
  | .string s => some (.string s)
  | .address a => some (.address a)
  | .bool b => some (.bool b)
  | .uint v _ => some (.uint v)
  | _ => none

/-- The arguments that the data encode, if they are of the kinds of the types. -/
def decodeArguments? (types : List Ty) (data : List UInt8) : Option (List ResolvedArgument) :=
  (Value.decode? types data).bind (List.mapM Value.argument?)

variable {parameters : List Parameter} {arguments : List ResolvedArgument} {values : List Value}
  {types : List Ty} {data : List UInt8} {ty : Ty} {a : ResolvedArgument} {value : Value}

namespace ResolvedArgument

/-- An argument of the kind of its type is taken as it is. -/
theorem coerce_eq_ok (name : String) (htakes : ty.Takes a) :
    a.coerce name ty = .ok value ↔ IsValue ty a value := by
  cases htakes with
  | string | address | bool =>
    constructor
    · rintro ⟨⟩
      constructor
    · rintro ⟨⟩
      rfl
  | uint bits v =>
    by_cases hroom : v.toNat < 2 ^ bits
    · have hcoerce : (uint v).coerce name (.uint bits) = .ok (.uint v bits) := if_pos hroom
      rw [hcoerce]
      constructor
      · rintro ⟨⟩
        exact .uint hroom
      · rintro ⟨⟩
        rfl
    · have hcoerce : (uint v).coerce name (.uint bits) =
          .error (.tooManyBits name (.uint bits) v bits) := if_neg hroom
      rw [hcoerce]
      constructor
      · rintro ⟨⟩
      · intro hvalue
        cases hvalue with
        | uint hlt => exact absurd hlt hroom

/-- An argument of the kind of its type has a value if it is no amount of too many bits. -/
theorem exists_isValue_iff (htakes : ty.Takes a) : (∃ value, IsValue ty a value) ↔
    ∀ bits v, ty = .uint bits → a = .uint v → v.toNat < 2 ^ bits := by
  cases htakes with
  | string | address | bool => exact iff_of_true ⟨_, by constructor⟩ nofun
  | uint bits v =>
    constructor
    · rintro ⟨_, hvalue⟩ _ _ ⟨⟩ ⟨⟩
      cases hvalue with
      | uint hroom => exact hroom
    · exact fun hroom => ⟨_, .uint (hroom bits v rfl rfl)⟩

/-- The value of an argument has the shape of the type. -/
theorem IsValue.fits (hvalue : IsValue ty a value) : Value.fits ty value = true := by
  cases hvalue <;> simp [Value.fits]

/-- The argument is found again in its value. -/
theorem IsValue.argument?_eq (hvalue : IsValue ty a value) : value.argument? = some a := by
  cases hvalue <;> rfl

/-- No list stands in the value of an argument. -/
theorem IsValue.not_within_array (hvalue : IsValue ty a value) (items : List Value) :
    ¬ (Value.array items).Within value := by
  intro hwithin
  cases hvalue <;> cases hwithin

/-- The values of arguments of the kinds of their types. -/
theorem forall₂_coerceFor_iff
    (htypes : List.Forall₂ (fun p ty => p.resolve? = some ty) parameters types)
    (hkinds : ∀ x ∈ types.zip arguments, x.1.Takes x.2) :
    List.Forall₂ (fun x value => x.2.coerceFor x.1 = .ok value) (parameters.zip arguments) values ↔
      List.Forall₂ (fun x value => IsValue x.1 x.2 value) (types.zip arguments) values := by
  induction htypes generalizing arguments values with
  | nil => simp
  | @cons p ty parameters types hty _ ih =>
    cases arguments with
    | nil => simp
    | cons a arguments =>
      rw [List.zip_cons_cons, List.forall_mem_cons] at hkinds
      obtain ⟨htakes, hkinds⟩ := hkinds
      have hcoerce (value : Value) : a.coerceFor p = .ok value ↔ IsValue ty a value := by
        rw [coerceFor, hty]
        exact coerce_eq_ok p.name htakes
      simp only [List.zip_cons_cons, List.forall₂_cons_left_iff, hcoerce, ih hkinds]

/-- The values have the shapes of the types. -/
theorem fitEach_of_isValue (hlength : types.length = arguments.length)
    (hvalues : List.Forall₂ (fun x value => IsValue x.1 x.2 value) (types.zip arguments) values) :
    Value.fitEach types values = true := by
  induction types generalizing arguments values with
  | nil =>
    cases hvalues
    rfl
  | cons ty types ih =>
    obtain ⟨a, arguments, rfl⟩ := List.exists_cons_of_length_eq_add_one hlength.symm
    obtain ⟨value, others, hvalue, hothers, rfl⟩ := List.forall₂_cons_left_iff.mp hvalues
    rw [Value.fitEach, hvalue.fits, ih (Nat.succ.inj hlength) hothers, Bool.and_self]

/-- The arguments are found again in their values. -/
theorem mapM_argument?_of_isValue (hlength : types.length = arguments.length)
    (hvalues : List.Forall₂ (fun x value => IsValue x.1 x.2 value) (types.zip arguments) values) :
    values.mapM Value.argument? = some arguments := by
  induction types generalizing arguments values with
  | nil =>
    cases hvalues
    rw [List.eq_nil_of_length_eq_zero hlength.symm]
    rfl
  | cons ty types ih =>
    obtain ⟨a, arguments, rfl⟩ := List.exists_cons_of_length_eq_add_one hlength.symm
    obtain ⟨value, others, hvalue, hothers, rfl⟩ := List.forall₂_cons_left_iff.mp hvalues
    rw [List.mapM_cons, hvalue.argument?_eq, ih (Nat.succ.inj hlength) hothers]
    rfl

end ResolvedArgument

open ResolvedArgument

/-- Arguments of the kinds of their types are encoded as they are. -/
theorem encodeArguments_eq_ok_iff_isValue (htypes : Parameter.resolveAll? parameters = some types)
    (hkinds : ∀ x ∈ types.zip arguments, x.1.Takes x.2) :
    encodeArguments parameters arguments = .ok data ↔ types.length = arguments.length ∧
      ∃ values, List.Forall₂ (fun x value => IsValue x.1 x.2 value) (types.zip arguments) values ∧
        data = Value.encode values := by
  have hresolved := resolveAll?_eq_some.mp htypes
  rw [encodeArguments_eq_ok, htypes]
  simp only [coerceAll_eq_ok, forall₂_coerceFor_iff hresolved hkinds, hresolved.length_eq]
  constructor
  · rintro ⟨_, values, -, ⟨hlength, hvalues⟩, -, hdata⟩
    exact ⟨hlength, values, hvalues, hdata⟩
  · rintro ⟨hlength, values, hvalues, hdata⟩
    exact ⟨types, values, rfl, ⟨hlength, hvalues⟩, fitEach_of_isValue hlength hvalues, hdata⟩

/-- Arguments of the kinds of their types are encoded if the types admit them. -/
theorem exists_encodeArguments_iff (htypes : Parameter.resolveAll? parameters = some types)
    (hkinds : ∀ x ∈ types.zip arguments, x.1.Takes x.2) :
    (∃ data, encodeArguments parameters arguments = .ok data) ↔ Ty.Admit types arguments := by
  have hroom : (∃ values, List.Forall₂ (fun x value => IsValue x.1 x.2 value)
        (types.zip arguments) values) ↔
      ∀ bits v, (Ty.uint bits, ResolvedArgument.uint v) ∈ types.zip arguments →
        v.toNat < 2 ^ bits := by
    rw [exists_forall₂_iff]
    constructor
    · intro hvalues bits v hmem
      exact (exists_isValue_iff (hkinds _ hmem)).mp (hvalues _ hmem) bits v rfl rfl
    · rintro hroom ⟨ty, a⟩ hmem
      refine (exists_isValue_iff (hkinds _ hmem)).mpr ?_
      rintro bits v rfl rfl
      exact hroom bits v hmem
  simp only [encodeArguments_eq_ok_iff_isValue htypes hkinds]
  constructor
  · rintro ⟨data, hlength, values, hvalues, -⟩
    exact ⟨hlength, hroom.mp ⟨values, hvalues⟩⟩
  · rintro ⟨hlength, hlt⟩
    obtain ⟨values, hvalues⟩ := hroom.mpr hlt
    exact ⟨_, hlength, values, hvalues, rfl⟩

/-- Encoded arguments of the kinds of their types decode to the same arguments. -/
theorem decodeArguments?_of_encodeArguments
    (htypes : Parameter.resolveAll? parameters = some types)
    (hkinds : ∀ x ∈ types.zip arguments, x.1.Takes x.2)
    (hencode : encodeArguments parameters arguments = .ok data) (hsize : data.length < 2 ^ 256) :
    decodeArguments? types data = some arguments := by
  obtain ⟨hlength, values, hvalues, rfl⟩ :=
    (encodeArguments_eq_ok_iff_isValue htypes hkinds).mp hencode
  have hdecode : Value.decode? types (Value.encode values) = some values := by
    refine Value.decode?_encode (fitEach_of_isValue hlength hvalues) hsize ?_
    intro value hvalue items hwithin
    obtain ⟨x, -, hx⟩ := exists_left_of_forall₂ hvalues hvalue
    exact absurd hwithin (hx.not_within_array items)
  rw [decodeArguments?, hdecode, Option.bind_some, mapM_argument?_of_isValue hlength hvalues]

/-- Arguments of the kinds of their types are encoded by a constructor or a call if the types admit
them. The encoding, which in memory has fewer than 2 ^ 256 bytes, decodes to the same arguments, and
no other arguments of these kinds have it. -/
theorem encode_matching (htypes : Parameter.resolveAll? parameters = some types)
    (hkinds : ∀ x ∈ types.zip arguments, x.1.Takes x.2) :
    ((∃ data, Interface.encodeConstructor ⟨some parameters⟩ arguments = .ok data) ↔
      Ty.Admit types arguments) ∧
    (∀ f : Signature, f.inputs = parameters →
      ((∃ code, f.encodeCall arguments = .ok code) ↔ Ty.Admit types arguments)) ∧
    ∀ data, Encodes parameters arguments data → data.length < 2 ^ 256 →
      decodeArguments? types data = some arguments ∧
        ∀ arguments', (∀ x ∈ types.zip arguments', x.1.Takes x.2) →
          Encodes parameters arguments' data → arguments' = arguments := by
  have hencodable := exists_encodeArguments_iff htypes hkinds
  refine ⟨hencodable, fun f hinputs => ?_, fun data hencodes hsize => ?_⟩
  · rw [← hencodable, ← hinputs]
    simp only [encodeCall_eq_ok]
    exact ⟨fun ⟨_, data, hdata, _⟩ => ⟨data, hdata⟩, fun ⟨data, hdata⟩ => ⟨_, data, hdata, rfl⟩⟩
  · have hdecode :=
      decodeArguments?_of_encodeArguments htypes hkinds (encodes_iff.mp hencodes) hsize
    refine ⟨hdecode, fun arguments' hkinds' hencodes' => ?_⟩
    have hdecode' :=
      decodeArguments?_of_encodeArguments htypes hkinds' (encodes_iff.mp hencodes') hsize
    exact Option.some.inj (hdecode'.symm.trans hdecode)

/-- The types of a string, an amount of eight bits and an address. -/
theorem resolveAll?_threeKinds :
    Parameter.resolveAll? [.plain "string", .plain "uint8", .plain "address"] =
      some [.string, .uint 8, .address] := by
  have hparse : TypeText.parse? "string" = some (.named "string" []) := rfl
  have hstring : (Parameter.plain "string").resolve? = some .string :=
    Parameter.resolve?_of_named hparse rfl
  have hparse : TypeText.parse? "uint8" = some (.named "uint8" []) := rfl
  have hamount : (Parameter.plain "uint8").resolve? = some (.uint 8) :=
    Parameter.resolve?_of_named hparse rfl
  have hparse : TypeText.parse? "address" = some (.named "address" []) := rfl
  have haddress : (Parameter.plain "address").resolve? = some .address :=
    Parameter.resolve?_of_named hparse rfl
  exact resolveAll?_eq_some.mpr (.cons hstring (.cons hamount (.cons haddress .nil)))

/-- A string with blanks, quotation marks, commas and brackets is encoded as it is, next to the
greatest amount of eight bits and an address. -/
theorem encode_matching_of_oddString :
    Parameter.resolveAll? [.plain "string", .plain "uint8", .plain "address"] =
        some [.string, .uint 8, .address] ∧
      (∀ x ∈ [Ty.string, .uint 8, .address].zip
        [.string " 'é', ]", .uint 255, .address (.repeating 7)], x.1.Takes x.2) ∧
      Ty.Admit [.string, .uint 8, .address]
        [.string " 'é', ]", .uint 255, .address (.repeating 7)] ∧
      ∃ data, Encodes [.plain "string", .plain "uint8", .plain "address"]
          [.string " 'é', ]", .uint 255, .address (.repeating 7)] data ∧
        decodeArguments? [.string, .uint 8, .address] data =
          some [.string " 'é', ]", .uint 255, .address (.repeating 7)] := by
  have hkinds : ∀ x ∈ [Ty.string, .uint 8, .address].zip
      [.string " 'é', ]", .uint 255, .address (.repeating 7)], x.1.Takes x.2 := by
    simp only [List.zip_cons_cons, List.zip_nil_right, List.forall_mem_cons, List.not_mem_nil,
      false_imp_iff, implies_true, and_true]
    exact ⟨.string _, .uint _ _, .address _⟩
  have hencode : Interface.encodeConstructor
      ⟨some [.plain "string", .plain "uint8", .plain "address"]⟩
      [.string " 'é', ]", .uint 255, .address (.repeating 7)] =
        .ok (Value.encode [.string " 'é', ]", .uint 255 8, .address (.repeating 7)]) :=
    (encodeArguments_eq_ok_iff_isValue resolveAll?_threeKinds hkinds).mpr
      ⟨rfl, _, .cons (.string _) (.cons (.uint (by decide)) (.cons (.address _) .nil)), rfl⟩
  obtain ⟨hencodable, -, hdecode⟩ := encode_matching resolveAll?_threeKinds hkinds
  exact ⟨resolveAll?_threeKinds, hkinds, hencodable.mp ⟨_, hencode⟩, _, .construction hencode,
    (hdecode _ (.construction hencode) (by decide +kernel)).1⟩

end Rollout
