import Rollout.Proofs.Abi.Literals
import Rollout.Proofs.Abi.TextForms

/-!
# Shapes of values

Values are checked against the types of their parameters once more before they are encoded. The
check accepts exactly the values that have the shapes of the types, and whatever an argument is
turned into has the shape of its parameter's type, at whatever depth lists and tuples stand in it.
So the check never refuses anything: once all arguments have values, these are encoded.
-/

namespace Rollout

namespace Value

/-- The value has the shape of a type: the kind, the width and the length that the type asks for,
and so have all its items. -/
inductive HasShape : Ty → Value → Prop
  | bool (b : Bool) : HasShape .bool (.bool b)
  | address (a : Address) : HasShape .address (.address a)
  | function {content : List UInt8} (hlength : content.length = 24) :
    HasShape .function (.function content)
  | string (s : String) : HasShape .string (.string s)
  | bytes (content : List UInt8) : HasShape .bytes (.bytes content)
  | fixedBytes {length : ℕ} {content : List UInt8} (hlength : content.length = length) :
    HasShape (.fixedBytes length) (.fixedBytes content)
  | uint (v : Uint256) (bits : ℕ) : HasShape (.uint bits) (.uint v bits)
  | int (v : Uint256) (bits : ℕ) : HasShape (.int bits) (.int v bits)
  | array {item : Ty} {values : List Value} (hitems : ∀ value ∈ values, HasShape item value) :
    HasShape (.array item) (.array values)
  | fixedArray {item : Ty} {length : ℕ} {values : List Value} (hlength : values.length = length)
      (hitems : ∀ value ∈ values, HasShape item value) :
    HasShape (.fixedArray item length) (.fixedArray values)
  | tuple {types : List Ty} {values : List Value} (hitems : List.Forall₂ HasShape types values) :
    HasShape (.tuple types) (.tuple values)

mutual

/-- The check accepts only values of the shape. -/
theorem hasShape_of_fits : (ty : Ty) → (value : Value) → fits ty value = true → HasShape ty value
  | .bool, .bool b, _ => .bool b
  | .address, .address a, _ => .address a
  | .function, .function content, hfits => .function (by simpa [fits] using hfits)
  | .string, .string s, _ => .string s
  | .bytes, .bytes content, _ => .bytes content
  | .fixedBytes length, .fixedBytes content, hfits => .fixedBytes (by simpa [fits] using hfits)
  | .uint bits, .uint v bits', hfits => by
    obtain rfl : bits = bits' := by simpa [fits] using hfits
    exact .uint v bits
  | .int bits, .int v bits', hfits => by
    obtain rfl : bits = bits' := by simpa [fits] using hfits
    exact .int v bits
  | .array item, .array values, hfits => by
    have hitems : ∀ value ∈ values, fits item value = true := by simpa [fits] using hfits
    exact .array fun value hvalue => hasShape_of_fits item value (hitems value hvalue)
  | .fixedArray item length, .fixedArray values, hfits => by
    obtain ⟨hlength, hitems⟩ :
        values.length = length ∧ ∀ value ∈ values, fits item value = true := by
      simpa [fits] using hfits
    exact .fixedArray hlength fun value hvalue => hasShape_of_fits item value (hitems value hvalue)
  | .tuple types, .tuple values, hfits => by
    rw [fits] at hfits
    exact .tuple (hasShapes_of_fitEach types values hfits)

/-- The check accepts only lists of values of the shapes. -/
theorem hasShapes_of_fitEach : (types : List Ty) → (values : List Value) →
    fitEach types values = true → List.Forall₂ HasShape types values
  | [], [], _ => .nil
  | ty :: types, value :: values, hfits => by
    rw [fitEach, Bool.and_eq_true] at hfits
    exact .cons (hasShape_of_fits ty value hfits.1) (hasShapes_of_fitEach types values hfits.2)

end

mutual

/-- The check accepts all values of the shape. -/
theorem fits_of_hasShape : (ty : Ty) → (value : Value) → HasShape ty value → fits ty value = true
  | _, _, .bool _ | _, _, .address _ | _, _, .string _ | _, _, .bytes _ => by rw [fits]
  | _, _, .function hlength | _, _, .fixedBytes hlength => by simpa [fits] using hlength
  | _, _, .uint _ _ | _, _, .int _ _ => by simp [fits]
  | .array item, .array values, .array hitems => by
    simpa [fits] using fun value hvalue => fits_of_hasShape item value (hitems value hvalue)
  | .fixedArray item length, .fixedArray values, .fixedArray hlength hitems => by
    simpa [fits] using ⟨hlength, fun value hvalue =>
      fits_of_hasShape item value (hitems value hvalue)⟩
  | .tuple types, .tuple values, .tuple hitems => by
    rw [fits]
    exact fitEach_of_hasShapes types values hitems

/-- The check accepts all lists of values of the shapes. -/
theorem fitEach_of_hasShapes : (types : List Ty) → (values : List Value) →
    List.Forall₂ HasShape types values → fitEach types values = true
  | [], [], _ => by rw [fitEach]
  | ty :: types, value :: values, .cons hfirst hlater => by
    rw [fitEach, Bool.and_eq_true]
    exact ⟨fits_of_hasShape ty value hfirst, fitEach_of_hasShapes types values hlater⟩

end

/-- The check accepts exactly the lists of values that have the shapes of the types. -/
theorem fitEach_iff {types : List Ty} {values : List Value} :
    fitEach types values = true ↔ List.Forall₂ HasShape types values :=
  ⟨hasShapes_of_fitEach types values, fitEach_of_hasShapes types values⟩

end Value

variable {ty : Ty} {value : Value} {values : List Value} {types : List Ty} {text rest : List Char}
  {parameters : List Parameter} {arguments : List ResolvedArgument} {p : Parameter}
  {a : ResolvedArgument}

namespace Literal

open Value (HasShape)

/-- A reader of values of one shape finds that shape for each of its values. -/
theorem finds_hasShape {levels : ℕ} {close : Option Char}
    (hread : ∀ text value rest, read? ty levels close text = some (value, rest) →
      HasShape ty value) :
    Finds (fun _ value => HasShape ty value) (read? ty levels close) :=
  ⟨fun _ _ _ _ hshape => hshape,
    fun text value rest h => (bounded_of_read? ty levels close text value rest h).1, hread⟩

/-- A literal without items has the shape that all its values have. -/
theorem hasShape_of_map {α : Type} {read : TextReader α} (wrap : α → Value)
    (hwrap : ∀ x, HasShape ty (wrap x))
    (h : ((read text).map fun (x, rest) => (wrap x, rest)) = some (value, rest)) :
    HasShape ty value := by
  obtain ⟨⟨x, rest'⟩, -, hpair⟩ := Option.map_eq_some_iff.mp h
  cases hpair
  exact hwrap x

mutual

/-- The value of a literal has the shape of the type that it is read for. -/
theorem hasShape_of_read? (ty : Ty) : ∀ (levels : ℕ) (close : Option Char) (text : List Char)
    (value : Value) (rest : List Char), read? ty levels close text = some (value, rest) →
      HasShape ty value := by
  intro levels close text value rest h
  match ty with
  | .bool => exact hasShape_of_map .bool .bool h
  | .address => exact hasShape_of_map .address .address h
  | .function =>
    exact hasShape_of_map (fun f : FixedBytes 24 => .function f.bytes)
      (fun f => .function f.length_bytes) h
  | .string => exact hasShape_of_map .string .string h
  | .bytes => exact hasShape_of_map .bytes .bytes h
  | .fixedBytes length =>
    exact hasShape_of_map (fun b : FixedBytes length => .fixedBytes b.bytes)
      (fun b => .fixedBytes b.length_bytes) h
  | .uint bits =>
    exact hasShape_of_map (fun n : ℕ => .uint (BitVec.ofNat 256 n) bits) (fun n => .uint _ bits) h
  | .int bits =>
    exact hasShape_of_map (fun z : ℤ => .int (BitVec.ofInt 256 z) bits) (fun z => .int _ bits) h
  | .array item =>
    obtain ⟨⟨items, rest'⟩, hread, hpair⟩ := Option.map_eq_some_iff.mp h
    cases hpair
    have hfinds (levels) := finds_hasShape (hasShape_of_read? item levels (some ']'))
    exact .array ((Finds.deeper hfinds levels).readList? hread).2.1
  | .fixedArray item length =>
    obtain ⟨⟨items, rest'⟩, hread, hpair⟩ := Option.bind_eq_some_iff.mp h
    rw [Option.ite_none_right_eq_some] at hpair
    obtain ⟨hlength, hpair⟩ := hpair
    cases hpair
    have hfinds (levels) := finds_hasShape (hasShape_of_read? item levels (some ']'))
    exact .fixedArray hlength ((Finds.deeper hfinds levels).readList? hread).2.1
  | .tuple items =>
    unfold read? at h
    split at h
    · obtain ⟨⟨values, rest'⟩, hread, hpair⟩ := Option.map_eq_some_iff.mp h
      cases hpair
      exact .tuple (hasShapes_of_readTuple? items _ _ _ _ hread)
    · cases h

/-- The items of a tuple have the shapes of the types that they are read for, one for one. -/
theorem hasShapes_of_readTuple? (types : List Ty) : ∀ (levels : ℕ) (text : List Char)
    (values : List Value) (rest : List Char), readTuple? types levels text = some (values, rest) →
      List.Forall₂ HasShape types values := by
  intro levels text values rest h
  match types with
  | [] =>
    obtain ⟨rest', -, hpair⟩ := Option.map_eq_some_iff.mp h
    cases hpair
    exact .nil
  | [item] =>
    obtain ⟨⟨value, behind⟩, hread, h⟩ := Option.bind_eq_some_iff.mp h
    obtain ⟨rest', -, hpair⟩ := Option.map_eq_some_iff.mp h
    cases hpair
    exact .cons (hasShape_of_read? item _ _ _ _ _ hread) .nil
  | item :: next :: types =>
    simp only [readTuple?, Option.bind_eq_bind, Option.bind_eq_some_iff] at h
    obtain ⟨⟨value, behind⟩, hread, comma, -, ⟨others, rest'⟩, hothers, hpair⟩ := h
    cases hpair
    exact .cons (hasShape_of_read? item _ _ _ _ _ hread)
      (hasShapes_of_readTuple? (next :: types) _ _ _ _ hothers)

end

/-- The value that a text stands for has the shape of the type. -/
theorem hasShape_of_valueOf? {s : String} (h : valueOf? ty s = some value) : HasShape ty value := by
  unfold valueOf? at h
  split at h
  · cases h
    exact .string s
  · obtain ⟨⟨value', rest⟩, hread, hvalue⟩ := Option.bind_eq_some_iff.mp h
    rw [Option.ite_none_right_eq_some] at hvalue
    cases hvalue.2
    exact hasShape_of_read? ty _ _ _ _ _ hread

end Literal

namespace ResolvedArgument

/-- The value of an argument has the shape of the parameter's type. -/
theorem hasShape_of_coerceFor (h : a.coerceFor p = .ok value) :
    ∃ ty, p.resolve? = some ty ∧ Value.HasShape ty value := by
  obtain ⟨ty, hty, hvalue⟩ := Option.bind_eq_some_iff.mp (coerceFor_eq_ok.mp h)
  exact ⟨ty, hty, Literal.hasShape_of_valueOf? hvalue⟩

/-- There is one value for each parameter, and it has the shape of the parameter's type. -/
theorem hasShapes_of_coerceAll (h : coerceAll parameters arguments = .ok values) :
    List.Forall₂ (fun p value => ∃ ty, p.resolve? = some ty ∧ Value.HasShape ty value) parameters
      values := by
  obtain ⟨hlength, hvalues⟩ := coerceAll_eq_ok.mp h
  have hshapes := hvalues.imp fun _ _ => hasShape_of_coerceFor
  rw [← List.map_fst_zip (Nat.le_of_eq hlength), List.forall₂_map_left_iff]
  exact hshapes

/-- No argument is refused for the shape of its value. -/
theorem coerceFor_ne_shapeMismatch (p : Parameter) (a : ResolvedArgument) :
    a.coerceFor p ≠ .error .shapeMismatch := by
  intro h
  unfold coerceFor at h
  split at h
  · unfold coerce at h
    split at h
    · cases h
    · cases h
    · cases h
    · split at h <;> cases h
    · split at h <;> cases h
  · cases h

/-- No list of arguments is refused for the shape of a value. -/
theorem coerceAll_ne_shapeMismatch (parameters : List Parameter)
    (arguments : List ResolvedArgument) :
    coerceAll parameters arguments ≠ .error .shapeMismatch := by
  intro h
  unfold coerceAll at h
  split at h
  · obtain ⟨⟨p, a⟩, -, herror⟩ := exists_error_of_mapM h
    exact coerceFor_ne_shapeMismatch p a herror
  · cases h

end ResolvedArgument

/-- Parameters whose types exist one by one have a list of types. -/
theorem exists_resolveAll?_of_forall₂ {R : Ty → Value → Prop}
    (h : List.Forall₂ (fun p value => ∃ ty, p.resolve? = some ty ∧ R ty value) parameters values) :
    ∃ types, Parameter.resolveAll? parameters = some types ∧ List.Forall₂ R types values := by
  induction h with
  | nil => exact ⟨[], rfl, .nil⟩
  | cons hfirst _ ih =>
    obtain ⟨ty, hty, hvalue⟩ := hfirst
    obtain ⟨types, htypes, hvalues⟩ := ih
    refine ⟨ty :: types, ?_, .cons hvalue hvalues⟩
    exact resolveAll?_eq_some.mpr (.cons hty (resolveAll?_eq_some.mp htypes))

/-- The check of the shapes lets the values of all arguments pass. -/
theorem encodeValues_of_coerceAll
    (h : ResolvedArgument.coerceAll parameters arguments = .ok values) :
    encodeValues parameters values = .ok (Value.encode values) := by
  obtain ⟨types, htypes, hshapes⟩ :=
    exists_resolveAll?_of_forall₂ (ResolvedArgument.hasShapes_of_coerceAll h)
  exact encodeValues_eq_ok.mpr ⟨types, htypes, Value.fitEach_iff.mpr hshapes, rfl⟩

/-- Arguments are encoded exactly when all of them have values, and otherwise refused for one that
has none. -/
theorem encodeArguments_eq_map (parameters : List Parameter) (arguments : List ResolvedArgument) :
    encodeArguments parameters arguments =
      (ResolvedArgument.coerceAll parameters arguments).map Value.encode := by
  rw [encodeArguments]
  cases hvalues : ResolvedArgument.coerceAll parameters arguments with
  | error e => rfl
  | ok values => exact encodeValues_of_coerceAll hvalues

/-- The check of the shapes never fails behind the arguments. -/
theorem encodeArguments_ne_shapeMismatch (parameters : List Parameter)
    (arguments : List ResolvedArgument) :
    encodeArguments parameters arguments ≠ .error .shapeMismatch := by
  rw [encodeArguments_eq_map]
  exact fun h => ResolvedArgument.coerceAll_ne_shapeMismatch _ _ (map_eq_error.mp h)

/-- When a list of arguments has values, there is one for each parameter. It has the shape of the
parameter's type, and so have all items in it: their kinds, widths and lengths are those of their
types. Constructors and calls then encode these values, and for no arguments do they fail because a
value has another shape than its parameter. -/
theorem coerced_shapes (parameters : List Parameter) (arguments : List ResolvedArgument) :
    (∀ values, ResolvedArgument.coerceAll parameters arguments = .ok values →
      List.Forall₂ (fun p value => ∃ ty, p.resolve? = some ty ∧ Value.HasShape ty value)
        parameters values ∧
      Interface.encodeConstructor ⟨some parameters⟩ arguments = .ok (Value.encode values) ∧
      ∀ f : Signature, f.inputs = parameters →
        f.encodeCall arguments = .ok (f.selector.bytes ++ Value.encode values)) ∧
    (∀ i : Interface, i.encodeConstructor arguments ≠ .error .shapeMismatch) ∧
    ∀ f : Signature, f.encodeCall arguments ≠ .error .shapeMismatch := by
  refine ⟨fun values hvalues => ?_, fun i => ?_, fun f hcall => ?_⟩
  · have hencode : encodeArguments parameters arguments = .ok (Value.encode values) := by
      rw [encodeArguments_eq_map, hvalues]
      rfl
    refine ⟨ResolvedArgument.hasShapes_of_coerceAll hvalues, hencode, fun f hinputs => ?_⟩
    exact encodeCall_eq_ok.mpr ⟨_, by rwa [hinputs], rfl⟩
  · unfold Interface.encodeConstructor
    split
    · exact encodeArguments_ne_shapeMismatch _ arguments
    · split <;> exact nofun
  · exact encodeArguments_ne_shapeMismatch f.inputs arguments (map_eq_error.mp hcall)

/-- Two tuples, each of a list of short byte strings and a tuple of a number and a string. -/
def nestedPairs : Parameter :=
  ⟨"tuple[2]", "pairs", [⟨"bytes2[]", "codes", []⟩,
    ⟨"tuple", "note", [⟨"uint16", "", []⟩, ⟨"string", "", []⟩]⟩]⟩

/-- The type of the nested tuples. -/
theorem resolve?_nestedPairs : nestedPairs.resolve? =
    some (.fixedArray (.tuple [.array (.fixedBytes 2), .tuple [.uint 16, .string]]) 2) := by
  have hpairs : TypeText.parse? "tuple[2]" = some (.named "tuple" [some 2]) := rfl
  have hcodes : TypeText.parse? "bytes2[]" = some (.named "bytes2" [none]) := rfl
  have hnote : TypeText.parse? "tuple" = some (.named "tuple" []) := rfl
  have hnumber : TypeText.parse? "uint16" = some (.named "uint16" []) := rfl
  have hstring : TypeText.parse? "string" = some (.named "string" []) := rfl
  simp only [nestedPairs, Parameter.resolve?, Parameter.resolveAll?, hpairs, hcodes, hnote, hnumber,
    hstring]
  rfl

/-- A literal of nested tuples and a truth value are turned into values of their shapes, and these
are encoded. -/
theorem coerced_shapes_of_nestedPairs :
    ∃ values, ResolvedArgument.coerceAll [nestedPairs, .plain "bool"]
        [.string "[([0x0102, 0304], (7, 'a, b')), ([], (65535, c)),]", .bool true] = .ok values ∧
      List.Forall₂ (fun p value => ∃ ty, p.resolve? = some ty ∧ Value.HasShape ty value)
        [nestedPairs, .plain "bool"] values ∧
      Interface.encodeConstructor ⟨some [nestedPairs, .plain "bool"]⟩
        [.string "[([0x0102, 0304], (7, 'a, b')), ([], (65535, c)),]", .bool true] =
          .ok (Value.encode values) := by
  have hparse : TypeText.parse? "bool" = some (.named "bool" []) := rfl
  have hbool : (Parameter.plain "bool").resolve? = some .bool :=
    Parameter.resolve?_of_named hparse rfl
  have hpairs : (ResolvedArgument.string
      "[([0x0102, 0304], (7, 'a, b')), ([], (65535, c)),]").coerceFor nestedPairs =
        .ok (.fixedArray [
          .tuple [.array [.fixedBytes [1, 2], .fixedBytes [3, 4]],
            .tuple [.uint 7 16, .string "a, b"]],
          .tuple [.array [], .tuple [.uint 65535 16, .string "c"]]]) :=
    ResolvedArgument.coerceFor_eq_ok.mpr (by rw [resolve?_nestedPairs]; rfl)
  have hflag : (ResolvedArgument.bool true).coerceFor (.plain "bool") = .ok (.bool true) :=
    ResolvedArgument.coerceFor_eq_ok.mpr (by rw [hbool]; rfl)
  have hvalues : ResolvedArgument.coerceAll [nestedPairs, .plain "bool"]
      [.string "[([0x0102, 0304], (7, 'a, b')), ([], (65535, c)),]", .bool true] = .ok _ :=
    coerceAll_eq_ok.mpr ⟨rfl, .cons hpairs (.cons hflag .nil)⟩
  obtain ⟨hshapes, hencode, -⟩ := (coerced_shapes _ _).1 _ hvalues
  exact ⟨_, hvalues, hshapes, hencode⟩

end Rollout
