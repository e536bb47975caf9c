import Rollout.Proofs.Bytecode.Linking
import Rollout.Proofs.Plan.Build
import Rollout.Proofs.Plan.CreationCode
import Rollout.Proofs.Plan.Runs

/-!
# The order of links

The libraries of a unit are linked one after the other, and each of them rewrites the text that the
next one is looked for in. Their order does not matter as long as the text tells them apart: what
spells a placeholder of one library is a piece of its own and spells no placeholder of another.
-/

namespace Rollout

/-- The declaration with these libraries, if it is that of the unit. -/
def Declaration.relink (unit : String) (links : List String) (d : Declaration) : Declaration :=
  if d.name = unit then { d with links } else d

@[simp]
theorem Declaration.name_relink (unit : String) (links : List String) (d : Declaration) :
    (d.relink unit links).name = d.name := by
  unfold relink
  split <;> rfl

@[simp]
theorem Declaration.artifactName_relink (unit : String) (links : List String) (d : Declaration) :
    (d.relink unit links).artifactName = d.artifactName := by
  unfold relink
  split <;> rfl

namespace Manifest

variable {m : Manifest} {unit : String} {links : List String}

/-- The manifest in which a unit has these libraries. -/
def relink (m : Manifest) (unit : String) (links : List String) : Manifest :=
  ⟨m.units.map (Declaration.relink unit links)⟩

/-- Units keep their names. -/
theorem names_relink (m : Manifest) (unit : String) (links : List String) :
    (m.relink unit links).names = m.names := by
  simp [names, relink, Function.comp_def]

/-- Requirements do not depend on the order of the libraries. -/
theorem requires_relink (hperm : ∀ d ∈ m.units, d.name = unit → links.Perm d.links)
    (name dependency : String) :
    (m.relink unit links).Requires name dependency ↔ m.Requires name dependency := by
  have hdependencies : ∀ d ∈ m.units,
      (dependency ∈ (d.relink unit links).dependencies ↔ dependency ∈ d.dependencies) := by
    intro d hd
    unfold Declaration.relink
    split
    · rename_i hname
      simp [Declaration.dependencies, Declaration.referencedUnits, (hperm d hd hname).mem_iff]
    · rfl
  constructor
  · rintro ⟨e, he, rfl, hdependency⟩
    obtain ⟨d, hd, rfl⟩ := List.mem_map.mp he
    exact ⟨d, hd, (d.name_relink unit links).symm, (hdependencies d hd).mp hdependency⟩
  · rintro ⟨d, hd, rfl, hdependency⟩
    exact ⟨d.relink unit links, List.mem_map_of_mem hd, d.name_relink unit links,
      (hdependencies d hd).mpr hdependency⟩

/-- Units of a manifest are found by their names. -/
theorem filterMap_unit? (hnodup : m.names.Nodup) {units : List Declaration}
    (hunits : units ⊆ m.units) : (units.map (·.name)).filterMap m.unit? = units := by
  induction units with
  | nil => rfl
  | cons d units ih =>
    obtain ⟨hd, hunits⟩ := List.cons_subset.mp hunits
    have hfound : m.unit? d.name = some d := find?_of_nodup_map hnodup hd
    rw [List.map_cons, List.filterMap_cons, hfound, ih hunits]

end Manifest

namespace PlannedUnit

/-- The unit with these libraries, if it is the one. -/
def relink (unit : String) (links : List String) (u : PlannedUnit) : PlannedUnit :=
  ⟨u.declaration.relink unit links, u.artifact⟩

@[simp]
theorem name_relink (unit : String) (links : List String) (u : PlannedUnit) :
    (u.relink unit links).name = u.name :=
  u.declaration.name_relink unit links

/-- The unit itself gets the libraries. -/
theorem relink_self (links : List String) (u : PlannedUnit) :
    u.relink u.name links = ⟨{ u.declaration with links }, u.artifact⟩ := by
  rw [relink, Declaration.relink, name, if_pos rfl]

/-- All other units stay as they are. -/
theorem relink_of_ne {unit : String} {u : PlannedUnit} (hname : u.name ≠ unit)
    (links : List String) : u.relink unit links = u := by
  rw [name] at hname
  rw [relink, Declaration.relink, if_neg hname]

end PlannedUnit

namespace Plan

variable {p p' : Plan} {m : Manifest} {registry : Registry} {units : List PlannedUnit}
  {session : Session} {disk : Disk} {submitter : Submitter} {e : Execution} {u : PlannedUnit}
  {unit : String} {links libraries : List String} {pieces : List (List Char)} {piece : List Char}
  {address : String → Address}

/-- The plan in which a unit has these libraries. -/
def relink (p : Plan) (unit : String) (links : List String) : Plan :=
  ⟨p.units.map (PlannedUnit.relink unit links)⟩

/-- If the libraries of a unit are listed in another order, the plan is the same but for it. -/
theorem build_relink (hbuild : build m registry = .ok p)
    (hperm : ∀ d ∈ m.units, d.name = unit → links.Perm d.links) :
    build (m.relink unit links) registry = .ok (p.relink unit links) := by
  rw [build] at hbuild
  obtain ⟨g, hgraph, hbuild⟩ := bind_eq_ok.mp hbuild
  obtain ⟨units, horder, hbuild⟩ := bind_eq_ok.mp hbuild
  obtain ⟨planned, hplanned, hp⟩ := bind_eq_ok.mp hbuild
  cases hp
  have horder := mapError_eq_ok.mp horder
  have hg := Graph.represents_of_ofManifest (mapError_eq_ok.mp hgraph)
  obtain ⟨g', units', hgraph', horder', hnames⟩ := Graph.exists_order_congr hg
    (m.names_relink unit links) (Manifest.requires_relink hperm) horder
  have hg' := Graph.represents_of_ofManifest hgraph'
  have hunits' : units' = units.map (Declaration.relink unit links) := by
    have hmem := (Graph.isDeploymentOrder_of_order hg horder).perm.subset
    have hmem' := (Graph.isDeploymentOrder_of_order hg' horder').perm.subset
    have hrelinked : units.map (Declaration.relink unit links) ⊆ (m.relink unit links).units :=
      List.map_subset _ hmem
    rw [← Manifest.filterMap_unit? hg'.nodup_names hmem', hnames,
      ← Manifest.filterMap_unit? hg'.nodup_names hrelinked, List.map_map]
    simp [Function.comp_def]
  obtain ⟨rfl, hartifacts⟩ := mapM_loadUnit_eq_ok.mp hplanned
  have hplanned' : units'.mapM (loadUnit registry) =
      .ok (planned.map (PlannedUnit.relink unit links)) := by
    refine mapM_loadUnit_eq_ok.mpr ⟨by simp [hunits', PlannedUnit.relink, Function.comp_def], ?_⟩
    rw [List.forall_mem_map]
    intro v hv
    rw [PlannedUnit.relink, Declaration.artifactName_relink]
    exact hartifacts v hv
  rw [build, hgraph']
  exact bind_eq_ok.mpr ⟨g', rfl, bind_eq_ok.mpr ⟨units', mapError_eq_ok.mpr horder',
    bind_eq_ok.mpr ⟨_, hplanned', rfl⟩⟩⟩

/-- Sources are the same. -/
theorem sourceOf_relink (p : Plan) (unit : String) (links : List String) :
    (p.relink unit links).sourceOf = p.sourceOf := by
  funext name
  have hunit : (p.relink unit links).unit? name =
      (p.unit? name).map (PlannedUnit.relink unit links) := by
    simp only [unit?, relink, List.find?_map, Function.comp_def, PlannedUnit.name_relink]
  rw [sourceOf, sourceOf, hunit]
  cases p.unit? name <;> rfl

/-- Plans with the same sources build the same codes. -/
theorem creationCode_congr (hsources : p'.sourceOf = p.sourceOf) :
    p'.creationCode = p.creationCode := by
  have hlink : p'.linkLibrary = p.linkLibrary := by
    funext session unit t library
    rw [linkLibrary, linkLibrary, hsources]
  funext session sender u
  rw [creationCode, creationCode, linkedCode, linkedCode, hlink]

/-- The pieces tell the libraries apart: placeholders occur as pieces only, and no piece is a
placeholder of two libraries. -/
structure TellsApart (p : Plan) (libraries : List String) (pieces : List (List Char)) : Prop where
  occursAsPiece : ∀ library ∈ libraries,
    ∀ pattern ∈ Template.placeholders library (p.sourceOf library), OccursAsPiece pattern pieces
  eq_of_mem : ∀ library ∈ libraries, ∀ other ∈ libraries, ∀ piece ∈ pieces,
    piece ∈ Template.placeholders library (p.sourceOf library) →
      piece ∈ Template.placeholders other (p.sourceOf other) → library = other

/-- What a piece has become when libraries have been linked one after the other. -/
def bound (p : Plan) (address : String → Address) (libraries : List String) (piece : List Char) :
    List Char :=
  libraries.foldl (fun piece library =>
    fill (Template.placeholders library (p.sourceOf library)) (address library).hex piece) piece

/-- Linking libraries whose placeholders occur as pieces only binds the pieces. -/
theorem foldlM_linkLibrary_flatten (hassigns : session.Assigns address libraries)
    (hoccurs : ∀ library ∈ libraries, ∀ pattern ∈
      Template.placeholders library (p.sourceOf library), OccursAsPiece pattern pieces) :
    libraries.foldlM (p.linkLibrary session unit) ⟨pieces.flatten, []⟩ =
      .ok ⟨(pieces.map (p.bound address libraries)).flatten, []⟩ := by
  induction libraries generalizing pieces with
  | nil =>
    have hbound : p.bound address [] = id := rfl
    rw [hbound, List.map_id]
    rfl
  | cons library libraries ih =>
    obtain ⟨hfirst, hoccurs⟩ := List.forall_mem_cons.mp hoccurs
    let filled := fill (Template.placeholders library (p.sourceOf library)) (address library).hex
    have hlater : ∀ other ∈ libraries, ∀ pattern ∈ Template.placeholders other (p.sourceOf other),
        OccursAsPiece pattern (pieces.map filled) := fun other hother pattern hpattern =>
      (hoccurs other hother pattern hpattern).map_fill (isDigits_hex _)
        (FixedBytes.length_hex _) (isFramed_of_mem_placeholders pattern hpattern) _
    have hresolve := hassigns.resolve unit List.mem_cons_self
    have hassigns : session.Assigns address libraries := fun name hname =>
      hassigns name (List.mem_cons_of_mem _ hname)
    have hlink := (linkLibrary_eq_ok hresolve).mpr
      ⟨_, Template.link_flatten hfirst unit (address library)⟩
    rw [List.foldlM_cons]
    refine bind_eq_ok.mpr ⟨_, hlink, ?_⟩
    rw [ih hassigns hlater, List.map_map]
    rfl

/-- A piece that is a placeholder of none of the libraries stays. -/
theorem bound_of_forall_notMem (hpiece : ∀ library ∈ libraries,
    piece ∉ Template.placeholders library (p.sourceOf library)) :
    p.bound address libraries piece = piece := by
  induction libraries with
  | nil => rfl
  | cons library libraries ih =>
    obtain ⟨hfirst, hrest⟩ := List.forall_mem_cons.mp hpiece
    rw [bound, List.foldl_cons, fill, if_neg hfirst]
    exact ih hrest

/-- A piece that is a placeholder of one library only becomes its address. -/
theorem bound_of_mem {library : String} (hlibrary : library ∈ libraries)
    (hpiece : piece ∈ Template.placeholders library (p.sourceOf library))
    (hother : ∀ other ∈ libraries, piece ∈ Template.placeholders other (p.sourceOf other) →
      other = library) : p.bound address libraries piece = (address library).hex := by
  induction libraries with
  | nil => cases hlibrary
  | cons first libraries ih =>
    obtain ⟨hfirst, hrest⟩ := List.forall_mem_cons.mp hother
    rw [bound, List.foldl_cons]
    by_cases hmem : piece ∈ Template.placeholders first (p.sourceOf first)
    · rw [fill, if_pos hmem, hfirst hmem]
      refine bound_of_forall_notMem fun other _ hdigits => ?_
      exact (isFramed_of_mem_placeholders _ hdigits).not_isDigits (isDigits_hex _)
    · rw [fill, if_neg hmem]
      rcases List.mem_cons.mp hlibrary with rfl | hlibrary
      · exact absurd hpiece hmem
      · exact ih hlibrary hrest

/-- The order of the libraries does not matter to a piece that tells them apart. -/
theorem TellsApart.bound_perm (happart : p.TellsApart libraries pieces)
    (hperm : links.Perm libraries) (hpiece : piece ∈ pieces) :
    p.bound address links piece = p.bound address libraries piece := by
  by_cases hmem : ∃ library ∈ libraries, piece ∈ Template.placeholders library (p.sourceOf library)
  · obtain ⟨library, hlibrary, hmem⟩ := hmem
    have hother : ∀ other ∈ libraries, piece ∈ Template.placeholders other (p.sourceOf other) →
        other = library := fun other hother hmem' =>
      happart.eq_of_mem other hother library hlibrary piece hpiece hmem' hmem
    rw [bound_of_mem hlibrary hmem hother, bound_of_mem (hperm.mem_iff.mpr hlibrary) hmem
      fun other hlink => hother other (hperm.mem_iff.mp hlink)]
  · have hnone : ∀ library ∈ libraries,
        piece ∉ Template.placeholders library (p.sourceOf library) :=
      fun library hlibrary hmem' => hmem ⟨library, hlibrary, hmem'⟩
    rw [bound_of_forall_notMem hnone, bound_of_forall_notMem fun library hlink =>
      hnone library (hperm.mem_iff.mp hlink)]

/-- With all of its dependencies at hand, a unit has the same code whatever the order of its
libraries is, if its pieces tell them apart. -/
theorem creationCode_relink {sender : Address}
    (hcontains : ∀ name ∈ u.declaration.dependencies, session.contains name)
    (hcode : u.artifact.bytecode = ⟨pieces.flatten, []⟩) (hperm : links.Perm u.declaration.links)
    (happart : p.TellsApart u.declaration.links pieces) :
    p.creationCode session sender (u.relink u.name links) = p.creationCode session sender u := by
  obtain ⟨address, hassigns⟩ := Session.exists_assigns_iff.mpr fun name hname =>
    hcontains name (List.mem_append_left _ hname)
  have hassigns' : session.Assigns address links := fun name hname =>
    hassigns name (hperm.mem_iff.mp hname)
  have hoccurs' : ∀ library ∈ links, ∀ pattern ∈
      Template.placeholders library (p.sourceOf library), OccursAsPiece pattern pieces :=
    fun library hlibrary => happart.occursAsPiece library (hperm.mem_iff.mp hlibrary)
  have hbound : pieces.map (p.bound address links) =
      pieces.map (p.bound address u.declaration.links) :=
    List.map_congr_left fun piece hpiece => happart.bound_perm hperm hpiece
  have hlinked : p.linkedCode session (u.relink u.name links) = p.linkedCode session u := by
    rw [u.relink_self, linkedCode, linkedCode, hcode, foldlM_linkLibrary_flatten hassigns' hoccurs',
      foldlM_linkLibrary_flatten hassigns happart.occursAsPiece, hbound]
    rfl
  rw [creationCode, creationCode, hlinked, u.relink_self]
  rfl

/-- If the changed units have the codes of the units whenever the session holds what stands before
them, then their runs are the same. -/
theorem Runs.map_units {r : PlannedUnit → PlannedUnit} (hname : ∀ u, (r u).name = u.name)
    (hruns : Runs p units session disk submitter e)
    (hcodes : ∀ before u after later, units = before ++ u :: after →
      session.handles <+: later.handles → (∀ v ∈ before, later.contains v.name) →
        p'.creationCode later submitter.sender (r u) =
          p.creationCode later submitter.sender u) :
    Runs p' (units.map r) session disk submitter e := by
  induction hruns with
  | done => exact Runs.done
  | @skipped u units session disk submitter e hcontains hrest ih =>
    refine Runs.skipped (by rwa [hname]) (ih fun before v after later hunits hlater hbefore => ?_)
    refine hcodes (u :: before) v after later (by rw [hunits]; rfl) hlater ?_
    exact List.forall_mem_cons.mpr ⟨Session.contains_mono hlater hcontains, hbefore⟩
  | unbuilt hnew hcode =>
    have hsame := hcodes [] _ _ _ rfl List.prefix_rfl (by simp)
    exact Runs.unbuilt (by rwa [hname]) (hsame.trans hcode)
  | unsettled hnew hcode hsettle =>
    have hsame := hcodes [] _ _ _ rfl List.prefix_rfl (by simp)
    exact Runs.unsettled (by rwa [hname]) (hsame.trans hcode) (by rwa [hname])
  | unwritten hnew hcode hsettle hflush =>
    have hsame := hcodes [] _ _ _ rfl List.prefix_rfl (by simp)
    exact Runs.unwritten (by rwa [hname]) (hsame.trans hcode) (by rwa [hname]) hflush
  | @deployed u units session disk disk' submitter code handle e hnew hcode hsettle hflush _ ih =>
    have hsame := hcodes [] _ _ _ rfl List.prefix_rfl (by simp)
    refine Runs.deployed (by rwa [hname]) (hsame.trans hcode) (by rwa [hname]) hflush
      (ih fun before v after later hunits hlater hbefore => ?_)
    have hhandles := (Session.prefix_holding session handle).trans hlater
    refine hcodes (u :: before) v after later (by rw [hunits]; rfl) hhandles ?_
    refine List.forall_mem_cons.mpr ⟨Session.contains_mono hlater ?_, hbefore⟩
    exact Session.contains_holding.mpr (Or.inr (settle_name hsettle))

/-- Libraries with plain names are told apart by all code of digits and of their older
placeholders. -/
theorem tellsApart_of_isPlainName (p : Plan) (hnames : ∀ library ∈ libraries, IsPlainName library)
    (hpieces : ∀ piece ∈ pieces, IsDigits piece ∨
      ∃ library ∈ libraries, piece = legacyPlaceholder library.toList) :
    p.TellsApart libraries pieces where
  occursAsPiece library hlibrary := by
    have htag : IsTag (legacyTag library.toList) := by
      rw [(hnames library hlibrary).legacyTag_eq]
      exact (hnames library hlibrary).isTag
    refine Template.occursAsPiece_of_mem_placeholders htag (fun piece hpiece => ?_) _
    rcases hpieces piece hpiece with hdigits | ⟨other, hother, rfl⟩
    · exact Or.inl hdigits
    · have hname := hnames other hother
      exact Or.inr ⟨other.toList, hname.isTag, hname.legacyPlaceholder_eq⟩
  eq_of_mem library hlibrary other hother piece hpiece hmem hmem' := by
    have hown (name : String) (hname : name ∈ libraries)
        (hmem : piece ∈ Template.placeholders name (p.sourceOf name)) :
        piece = legacyPlaceholder name.toList := by
      rcases hpieces piece hpiece with hdigits | ⟨spelled, hspelled, rfl⟩
      · exact absurd hdigits (isFramed_of_mem_placeholders _ hmem).not_isDigits
      · rcases List.mem_cons.mp hmem with heq | hhashed
        · exact heq
        · obtain ⟨source, -, heq⟩ : ∃ s, p.sourceOf name = some s ∧
              hashedPlaceholder (qualifiedName s name) = legacyPlaceholder spelled.toList := by
            simpa using hhashed
          exact absurd heq.symm ((hnames spelled hspelled).legacyPlaceholder_ne _)
    have heq := (hown library hlibrary hmem).symm.trans (hown other hother hmem')
    exact ((hnames library hlibrary).legacyPlaceholder_inj (hnames other hother)).mp heq

/-- The libraries of a unit can be listed in any order, if its code is one of pieces that tell them
apart: the plan is built just as well, and executing it does exactly the same, on whatever session.
In particular the code that is submitted for the unit is the same, whatever the addresses are. -/
theorem execute_relink (hbuild : build m registry = .ok p) (hu : u ∈ p.units)
    (hperm : links.Perm u.declaration.links) (hcode : u.artifact.bytecode = ⟨pieces.flatten, []⟩)
    (happart : p.TellsApart u.declaration.links pieces) :
    build (m.relink u.name links) registry = .ok (p.relink u.name links) ∧
    ∀ (session : Session) (disk : Disk) (submitter : Submitter),
      (p.relink u.name links).execute session disk submitter =
        p.execute session disk submitter := by
  have hp := isPlanOf_of_build hbuild
  have hdeclared : u.declaration ∈ m.units :=
    hp.isDeploymentOrder.perm.subset (List.mem_map_of_mem hu)
  have hpermuted : ∀ d ∈ m.units, d.name = u.name → links.Perm d.links := by
    intro d hd hname
    rwa [Manifest.eq_of_mem_of_name_eq hp.nodup_names hd hdeclared hname]
  refine ⟨build_relink hbuild hpermuted, fun session disk submitter => ?_⟩
  have hruns := p.runs_executeUnits p.units session disk submitter
  refine (hruns.map_units (PlannedUnit.name_relink u.name links)
    fun before v after later hunits _ hbefore => ?_).eq_executeUnits.symm
  rw [creationCode_congr (p.sourceOf_relink u.name links)]
  by_cases hsame : v.name = u.name
  · have hv : v ∈ p.units := by rw [hunits]; simp
    obtain rfl : v = u := List.inj_on_of_nodup_map hp.nodup_order hv hu hsame
    refine creationCode_relink (fun name hdependency => ?_) hcode hperm happart
    have hrequires := Relation.TransGen.single (hp.requires hu hdependency)
    obtain ⟨w, hw, rfl⟩ := hp.exists_mem_before hunits hrequires
    exact hbefore w hw
  · rw [PlannedUnit.relink_of_ne hsame]

/-- A contract that links libraries, and libraries. -/
def linking (libraries links : List String) : Manifest :=
  ⟨{ name := "App", links } :: libraries.map fun name => { name }⟩

/-- The contract consists of pieces; every other name stands for a library. -/
def linkingRegistry (pieces : List (List Char)) : Registry := fun name =>
  .ok ⟨name, none, .empty, ⟨if name = "App" then pieces.flatten else ['6', '0'], []⟩⟩

/-- A library that stands twice in the code is linked first or last. -/
theorem execute_relink_of_linking :
    let lib := legacyPlaceholder "Lib".toList
    let pieces := [['6', '0'], lib, legacyPlaceholder "Math".toList, ['0', '0'], lib]
    let registry := linkingRegistry pieces
    ∃ p p', build (linking ["Lib", "Math"] ["Lib", "Math"]) registry = .ok p ∧
      build (linking ["Lib", "Math"] ["Math", "Lib"]) registry = .ok p' ∧
      let submitter := Submitter.confirming (Address.repeating 9)
      p'.execute (Session.new 1) .empty submitter = p.execute (Session.new 1) .empty submitter ∧
      (p.execute (Session.new 1) .empty submitter).submitted =
        [[0x60], [0x60], 0x60 :: (Address.repeating 0).bytes ++ (Address.repeating 1).bytes ++
          0x00 :: (Address.repeating 0).bytes] := by
  intro lib pieces registry
  obtain ⟨p, u, hbuild, hu, hname, hlinks, hcode, hsubmitted⟩ :
      ∃ p u, build (linking ["Lib", "Math"] ["Lib", "Math"]) registry = .ok p ∧ u ∈ p.units ∧
        u.name = "App" ∧ u.declaration.links = ["Lib", "Math"] ∧
        u.artifact.bytecode = ⟨pieces.flatten, []⟩ ∧
        (p.execute (Session.new 1) .empty (.confirming (Address.repeating 9))).submitted =
          [[0x60], [0x60], 0x60 :: (Address.repeating 0).bytes ++ (Address.repeating 1).bytes ++
            0x00 :: (Address.repeating 0).bytes] :=
    ⟨_, _, rfl, List.mem_of_getLast? rfl, rfl, rfl, rfl, by decide +kernel⟩
  have hperm : ["Math", "Lib"].Perm u.declaration.links := by
    rw [hlinks]
    exact List.Perm.swap _ _ _
  have hplain : ∀ library ∈ u.declaration.links, IsPlainName library := by
    rw [hlinks]
    have hlib : IsPlainName "Lib" :=
      ⟨by decide, by decide, by simp, by decide, by decide, by decide⟩
    have hmath : IsPlainName "Math" :=
      ⟨by decide, by decide, by simp, by decide, by decide, by decide⟩
    simp [hlib, hmath]
  have hpieces : ∀ piece ∈ pieces, IsDigits piece ∨
      ∃ library ∈ u.declaration.links, piece = legacyPlaceholder library.toList := by
    rw [hlinks]
    simp [pieces, lib, IsDigits]
    decide
  obtain ⟨hrelinked, hexecute⟩ := execute_relink hbuild hu hperm hcode
    (p.tellsApart_of_isPlainName hplain hpieces)
  rw [hname] at hrelinked hexecute
  exact ⟨p, _, hbuild, hrelinked, hexecute _ _ _, hsubmitted⟩

/-- The codes that are submitted for libraries and for a contract of pieces that links them. -/
def linkingCodes (pieces : List (List Char)) (libraries links : List String) :
    Except Failure (List (List UInt8)) :=
  (build (linking libraries links) (linkingRegistry pieces)).map fun p =>
    (p.execute (Session.new 1) .empty (.confirming (Address.repeating 9))).submitted

/-- Where the pieces do not tell the libraries apart, the order of the links decides what is
submitted. A name that ends with an underscore has the placeholder of the name without it, and
whichever library is linked first takes both places. The placeholder of a name that begins with an
underscore holds all of another one but its last character; where an underscore follows, linking the
other library first destroys both, and nothing is submitted for the contract. -/
theorem linkingCodes_of_clashing :
    let code := fun n m => 0x60 :: (Address.repeating n).bytes ++ (Address.repeating m).bytes
    let lib := legacyPlaceholder "Lib".toList
    let shared := linkingCodes [['6', '0'], lib, legacyPlaceholder "Lib_".toList] ["Lib", "Lib_"]
    let overlapping :=
      linkingCodes [['6', '0'], legacyPlaceholder "_Lib".toList, lib] ["Lib", "_Lib"]
    (shared ["Lib", "Lib_"] = .ok [[0x60], [0x60], code 0 0] ∧
      shared ["Lib_", "Lib"] = .ok [[0x60], [0x60], code 1 1] ∧ code 0 0 ≠ code 1 1) ∧
    overlapping ["Lib", "_Lib"] = .ok [[0x60], [0x60]] ∧
      overlapping ["_Lib", "Lib"] = .ok [[0x60], [0x60], code 1 0] := by
  intro code lib shared overlapping
  have hcodes : code 0 0 ≠ code 1 1 := by decide
  exact ⟨⟨rfl, rfl, hcodes⟩, rfl, rfl⟩

end Plan

end Rollout
