import Rollout.Plan.Basic
import Rollout.Proofs.Session.Handles

/-!
# Creation codes

The code of a unit is built from addresses alone: they are linked into its template one library
after the other, and they take the place of the references among its arguments. A session matters
only through the addresses that it assigns to the dependencies of the unit, so later sessions build
the same code.
-/

namespace Rollout

namespace Session

/-- The session holds these names, each with its address. -/
def Assigns (s : Session) (address : String → Address) (names : List String) : Prop :=
  ∀ name ∈ names, ∃ handle, s.get? name = some handle ∧ handle.address = address name

/-- A session that contains some names assigns addresses to them. -/
theorem exists_assigns_iff {s : Session} {names : List String} :
    (∃ address, s.Assigns address names) ↔ ∀ name ∈ names, s.contains name := by
  constructor
  · rintro ⟨address, hassigns⟩ name hname
    obtain ⟨handle, hget, -⟩ := hassigns name hname
    exact exists_get?_iff_contains.mp ⟨handle, hget⟩
  · intro hcontains
    refine ⟨fun name => ((s.get? name).map (·.address)).getD (Address.repeating 0), ?_⟩
    intro name hname
    obtain ⟨handle, hget⟩ := exists_get?_iff_contains.mpr (hcontains name hname)
    exact ⟨handle, hget, by simp only [hget, Option.map_some, Option.getD_some]⟩

/-- Later sessions assign the same addresses. -/
theorem Assigns.mono {s t : Session} {address : String → Address} {names : List String}
    (hassigns : s.Assigns address names) (hhandles : s.handles <+: t.handles) :
    t.Assigns address names := by
  intro name hname
  obtain ⟨handle, hget, haddress⟩ := hassigns name hname
  exact ⟨handle, get?_mono hhandles hget, haddress⟩

/-- Assigned addresses are those that are looked up. -/
theorem Assigns.resolve {s : Session} {address : String → Address} {names : List String}
    (hassigns : s.Assigns address names) (unit : String) {name : String} (hname : name ∈ names) :
    s.resolve unit name = .ok (address name) :=
  resolve_eq_ok.mpr (hassigns name hname)

end Session

namespace Argument

/-- Put addresses in the place of references. -/
def substitute (deployer : Address) (address : String → Address) : Argument → ResolvedArgument
  | .unit name => .address (address name)
  | .deployer => .address deployer
  | .address a => .address a
  | .uint v => .uint v
  | .string s => .string s
  | .bool b => .bool b

/-- Looking the references up puts their addresses in their place. -/
theorem resolveAll_eq_ok {ε : Type} {deployer : Address} {lookup : String → Except ε Address}
    {address : String → Address} {arguments : List Argument}
    (hlookup : ∀ name ∈ arguments.filterMap unit?, lookup name = .ok (address name)) :
    resolveAll deployer lookup arguments = .ok (arguments.map (substitute deployer address)) := by
  rw [resolveAll, mapM_eq_ok, List.forall₂_map_right_iff, List.forall₂_same]
  intro argument hmem
  cases argument with
  | unit name =>
    rw [resolve, hlookup name (List.mem_filterMap.mpr ⟨_, hmem, rfl⟩)]
    rfl
  | deployer | address | uint | string | bool => rfl

/-- Only references that can be looked up are replaced. -/
theorem exists_lookup_of_resolveAll_eq_ok {ε : Type} {deployer : Address}
    {lookup : String → Except ε Address} {arguments : List Argument}
    {resolved : List ResolvedArgument} (hok : resolveAll deployer lookup arguments = .ok resolved)
    {name : String} (hname : name ∈ arguments.filterMap unit?) : ∃ a, lookup name = .ok a := by
  obtain ⟨argument, hmem, hunit⟩ := List.mem_filterMap.mp hname
  obtain ⟨value, -, hvalue⟩ := exists_ok_of_mapM hok hmem
  cases argument with
  | unit name' =>
    obtain rfl := Option.some.inj hunit
    obtain ⟨a, ha, -⟩ := map_eq_ok.mp hvalue
    exact ⟨a, ha⟩
  | deployer | address | uint | string | bool => cases hunit

/-- References are looked up one by one, so a failure is that of one of them. -/
theorem exists_lookup_of_resolveAll_eq_error {ε : Type} {deployer : Address}
    {lookup : String → Except ε Address} {arguments : List Argument} {e : ε}
    (herror : resolveAll deployer lookup arguments = .error e) :
    ∃ name ∈ arguments.filterMap unit?, lookup name = .error e := by
  obtain ⟨argument, hmem, hargument⟩ := exists_error_of_mapM herror
  cases argument with
  | unit name =>
    exact ⟨name, List.mem_filterMap.mpr ⟨_, hmem, rfl⟩, map_eq_error.mp hargument⟩
  | deployer | address | uint | string | bool => cases hargument

end Argument

namespace Template

/-- Linking fails only where an offset is out of range. -/
theorem link_eq_error {t : Template} {unit library : String} {source : Option String}
    {address : Address} {e : LinkError}
    (herror : (t.link unit library source address).1 = .error e) :
    e = .offsetOutOfRange unit library := by
  unfold link at herror
  cases hwritten : writeOffsets address.hex (t.offsetsOf library) t.text with
  | mk text inRange =>
    cases inRange with
    | false =>
      simp only [hwritten, Except.error.injEq] at herror
      exact herror.symm
    | true => simp [hwritten] at herror

/-- Taking the code from a template fails at a placeholder or at a text that is no code. -/
theorem toBytes_eq_error {t : Template} {unit : String} {e : LinkError}
    (herror : t.toBytes unit = .error e) :
    (∃ placeholder, e = .unlinkedPlaceholder unit placeholder) ∨
      ∃ cause, e = .invalidBytecode unit cause := by
  unfold toBytes at herror
  split at herror
  · exact Or.inl ⟨_, (Except.error.inj herror).symm⟩
  · obtain ⟨cause, -, rfl⟩ := mapError_eq_error.mp herror
    exact Or.inr ⟨cause, rfl⟩

end Template

namespace Plan

/-- Linking the libraries at their addresses, in order, turns one template into another. -/
inductive Links (p : Plan) (unit : String) (address : String → Address) :
    List String → Template → Template → Prop
  | nil (t : Template) : Links p unit address [] t t
  | cons {library : String} {libraries : List String} {t t' t'' : Template} {count : ℕ}
      (hlink : t.link unit library (p.sourceOf library) (address library) = (.ok count, t'))
      (hrest : Links p unit address libraries t' t'') :
    Links p unit address (library :: libraries) t t''

/-- The code is that of the unit's template with all libraries linked, followed by its encoded
arguments with all references replaced. -/
def IsCreationCode (p : Plan) (u : PlannedUnit) (sender : Address) (address : String → Address)
    (code : List UInt8) : Prop :=
  ∃ linked body arguments,
    p.Links u.name address u.declaration.links u.artifact.bytecode linked ∧
    linked.toBytes u.name = .ok body ∧
    u.artifact.interface.encodeConstructor
      (u.declaration.args.map (Argument.substitute sender address)) = .ok arguments ∧
    code = body ++ arguments

variable {p : Plan} {u : PlannedUnit} {session : Session} {sender : Address}
  {address : String → Address}

/-- A library is linked at the address that the session assigns to it. -/
theorem linkLibrary_eq_ok {unit library : String} {bound : Address} {t t' : Template}
    (hresolve : session.resolve unit library = .ok bound) :
    p.linkLibrary session unit t library = .ok t' ↔ ∃ count,
      t.link unit library (p.sourceOf library) bound = (.ok count, t') := by
  simp only [linkLibrary, bind_eq_ok, mapError_eq_ok, hresolve, Except.ok.injEq, exists_eq_left']
  cases t.link unit library (p.sourceOf library) bound with
  | mk outcome linked =>
    cases outcome with
    | error e => simp
    | ok count => simp

/-- A library cannot be linked when it has no address or an offset is out of range. -/
theorem linkLibrary_eq_error {unit library : String} {t : Template} {failure : Failure}
    (herror : p.linkLibrary session unit t library = .error failure) :
    (¬ session.contains library ∧ failure = .link (.unresolved unit library)) ∨
      failure = .link (.offsetOutOfRange unit library) := by
  rw [linkLibrary] at herror
  rcases bind_eq_error.mp herror with hresolve | ⟨address, -, hlink⟩
  · obtain ⟨e, he, rfl⟩ := mapError_eq_error.mp hresolve
    obtain ⟨hcontains, rfl⟩ := Session.resolve_eq_error.mp he
    exact Or.inl ⟨hcontains, rfl⟩
  · split at hlink
    · cases hlink
    · rename_i e linked hfailed
      have he := Template.link_eq_error (congrArg Prod.fst hfailed)
      rw [he] at hlink
      exact Or.inr (Except.error.inj hlink).symm

/-- Linking the libraries in order is linking them at the addresses that the session assigns. -/
theorem foldlM_linkLibrary_eq_ok {unit : String} {libraries : List String} {t t' : Template}
    (hassigns : session.Assigns address libraries) :
    libraries.foldlM (p.linkLibrary session unit) t = .ok t' ↔
      p.Links unit address libraries t t' := by
  induction libraries generalizing t with
  | nil =>
    constructor
    · rintro ⟨⟩
      exact Links.nil _
    · rintro ⟨⟩
      rfl
  | cons library libraries ih =>
    have hresolve := hassigns.resolve unit List.mem_cons_self
    have hrest : session.Assigns address libraries := fun name hname =>
      hassigns name (List.mem_cons_of_mem _ hname)
    rw [List.foldlM_cons, bind_eq_ok]
    constructor
    · rintro ⟨t₁, hfirst, hlater⟩
      obtain ⟨count, hlink⟩ := (linkLibrary_eq_ok hresolve).mp hfirst
      exact Links.cons hlink ((ih hrest).mp hlater)
    · rintro ⟨⟩
      rename_i t₁ count hlink hlater
      exact ⟨t₁, (linkLibrary_eq_ok hresolve).mpr ⟨count, hlink⟩, (ih hrest).mpr hlater⟩

/-- Only libraries that the session contains can be linked. -/
theorem contains_of_foldlM_linkLibrary {unit : String} {libraries : List String}
    {t t' : Template} (hok : libraries.foldlM (p.linkLibrary session unit) t = .ok t') :
    ∀ library ∈ libraries, session.contains library := by
  induction libraries generalizing t with
  | nil => simp
  | cons library libraries ih =>
    rw [List.foldlM_cons] at hok
    obtain ⟨t₁, hfirst, hlater⟩ := bind_eq_ok.mp hok
    rw [linkLibrary] at hfirst
    obtain ⟨a, hresolve, -⟩ := bind_eq_ok.mp hfirst
    obtain ⟨handle, hget, -⟩ := Session.resolve_eq_ok.mp (mapError_eq_ok.mp hresolve)
    rw [List.forall_mem_cons]
    exact ⟨Session.exists_get?_iff_contains.mp ⟨handle, hget⟩, ih hlater⟩

/-- The encoded arguments are those with all references replaced. -/
theorem encodedArguments_eq_ok {arguments : List UInt8}
    (hassigns : session.Assigns address u.declaration.referencedUnits) :
    encodedArguments session sender u = .ok arguments ↔
      u.artifact.interface.encodeConstructor
        (u.declaration.args.map (Argument.substitute sender address)) = .ok arguments := by
  have hlookup : ∀ name ∈ u.declaration.args.filterMap Argument.unit?,
      session.resolve u.name name = .ok (address name) :=
    fun name hname => hassigns.resolve u.name hname
  rw [encodedArguments, Argument.resolveAll_eq_ok hlookup]
  exact mapError_eq_ok

/-- Arguments are encoded only when the session contains the units that they name. -/
theorem contains_of_encodedArguments {arguments : List UInt8}
    (hok : encodedArguments session sender u = .ok arguments) :
    ∀ name ∈ u.declaration.referencedUnits, session.contains name := by
  intro name hname
  rw [encodedArguments] at hok
  obtain ⟨resolved, hresolved, -⟩ := bind_eq_ok.mp hok
  obtain ⟨a, ha⟩ :=
    Argument.exists_lookup_of_resolveAll_eq_ok (mapError_eq_ok.mp hresolved) hname
  obtain ⟨handle, hget, -⟩ := Session.resolve_eq_ok.mp ha
  exact Session.exists_get?_iff_contains.mp ⟨handle, hget⟩

/-- A code is built only when the session contains all dependencies of the unit. -/
theorem contains_of_creationCode {code : List UInt8}
    (hcode : p.creationCode session sender u = .ok code) :
    ∀ name ∈ u.declaration.dependencies, session.contains name := by
  rw [creationCode] at hcode
  obtain ⟨body, hbody, hrest⟩ := bind_eq_ok.mp hcode
  obtain ⟨arguments, harguments, -⟩ := bind_eq_ok.mp hrest
  obtain ⟨linked, hlinked, -⟩ := bind_eq_ok.mp hbody
  intro name hname
  rcases List.mem_append.mp hname with hlink | hreference
  · exact contains_of_foldlM_linkLibrary hlinked name hlink
  · exact contains_of_encodedArguments harguments name hreference

/-- The code of a unit is its code at the addresses that the session assigns to its
dependencies. -/
theorem creationCode_eq_ok {code : List UInt8}
    (hassigns : session.Assigns address u.declaration.dependencies) :
    p.creationCode session sender u = .ok code ↔ p.IsCreationCode u sender address code := by
  have hlinks : session.Assigns address u.declaration.links := fun name hname =>
    hassigns name (List.mem_append_left _ hname)
  have hreferences : session.Assigns address u.declaration.referencedUnits := fun name hname =>
    hassigns name (List.mem_append_right _ hname)
  simp only [creationCode, linkedCode, bind_eq_ok, mapError_eq_ok, IsCreationCode,
    foldlM_linkLibrary_eq_ok hlinks, encodedArguments_eq_ok hreferences]
  constructor
  · rintro ⟨body, ⟨linked, hlinked, hbytes⟩, arguments, harguments, hcode⟩
    cases hcode
    exact ⟨linked, body, arguments, hlinked, hbytes, harguments, rfl⟩
  · rintro ⟨linked, body, arguments, hlinked, hbytes, harguments, rfl⟩
    exact ⟨body, ⟨linked, hlinked, hbytes⟩, arguments, harguments, rfl⟩

/-- Later sessions build the same code. -/
theorem creationCode_mono {later : Session} {code : List UInt8}
    (hhandles : session.handles <+: later.handles)
    (hcode : p.creationCode session sender u = .ok code) :
    p.creationCode later sender u = .ok code := by
  obtain ⟨address, hassigns⟩ := Session.exists_assigns_iff.mpr (contains_of_creationCode hcode)
  rw [creationCode_eq_ok (hassigns.mono hhandles)]
  exact (creationCode_eq_ok hassigns).mp hcode

/-- The ways in which the code of a unit cannot be built. -/
inductive CodeFailure (u : PlannedUnit) (session : Session) : Failure → Prop
  /-- The session does not contain a dependency of the unit. -/
  | unresolved {dependency : String} (hdependency : dependency ∈ u.declaration.dependencies)
      (hmissing : ¬ session.contains dependency) :
    CodeFailure u session (.link (.unresolved u.name dependency))
  | offsetOutOfRange {library : String} (hlibrary : library ∈ u.declaration.links) :
    CodeFailure u session (.link (.offsetOutOfRange u.name library))
  | unlinkedPlaceholder (placeholder : String) :
    CodeFailure u session (.link (.unlinkedPlaceholder u.name placeholder))
  | invalidBytecode (cause : Hex.Refusal) :
    CodeFailure u session (.link (.invalidBytecode u.name cause))
  | encoding (cause : EncodingError) :
    CodeFailure u session (.deployment (.encoding u.name cause))

/-- The linked code of a unit cannot be built for one of these reasons. -/
theorem linkedCode_eq_error {failure : Failure}
    (herror : p.linkedCode session u = .error failure) : CodeFailure u session failure := by
  rcases bind_eq_error.mp herror with hlinks | ⟨linked, -, hbytes⟩
  · obtain ⟨library, hmem, t, hlink⟩ := exists_error_of_foldlM hlinks
    rcases linkLibrary_eq_error hlink with ⟨hmissing, rfl⟩ | rfl
    · exact CodeFailure.unresolved (List.mem_append_left _ hmem) hmissing
    · exact CodeFailure.offsetOutOfRange hmem
  · obtain ⟨e, he, rfl⟩ := mapError_eq_error.mp hbytes
    rcases Template.toBytes_eq_error he with ⟨placeholder, rfl⟩ | ⟨cause, rfl⟩
    · exact CodeFailure.unlinkedPlaceholder placeholder
    · exact CodeFailure.invalidBytecode cause

/-- The arguments of a unit cannot be encoded for one of these reasons. -/
theorem encodedArguments_eq_error {failure : Failure}
    (herror : encodedArguments session sender u = .error failure) :
    CodeFailure u session failure := by
  rcases bind_eq_error.mp herror with hresolved | ⟨resolved, -, hencoded⟩
  · obtain ⟨e, he, rfl⟩ := mapError_eq_error.mp hresolved
    obtain ⟨name, hname, hlookup⟩ := Argument.exists_lookup_of_resolveAll_eq_error he
    obtain ⟨hmissing, rfl⟩ := Session.resolve_eq_error.mp hlookup
    exact CodeFailure.unresolved (List.mem_append_right _ hname) hmissing
  · obtain ⟨cause, -, rfl⟩ := mapError_eq_error.mp hencoded
    exact CodeFailure.encoding cause

/-- The code of a unit cannot be built for one of these reasons. -/
theorem creationCode_eq_error {failure : Failure}
    (herror : p.creationCode session sender u = .error failure) :
    CodeFailure u session failure := by
  rcases bind_eq_error.mp herror with hbody | ⟨body, -, hrest⟩
  · exact linkedCode_eq_error hbody
  · rcases bind_eq_error.mp hrest with harguments | ⟨arguments, -, hcode⟩
    · exact encodedArguments_eq_error harguments
    · cases hcode

end Plan

end Rollout
