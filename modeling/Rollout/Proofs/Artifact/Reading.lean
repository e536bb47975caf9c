import Rollout.Proofs.Artifact.LinkPositions
import Rollout.Proofs.Json.Visits

/-!
# Reading artifacts

A wrong reference shows only as wrong code on the chain, so a document is either read in full or
refused. Whatever it lists for a library under a source file becomes one reference, and a document
that is refused is refused for the first thing that is wrong with it.
-/

namespace Rollout.Artifact

variable {document j : Json} {name library : String} {text : String} {files? : Option Json}
  {fault : ArtifactFault} {r : LinkReference} {refs : List LinkReference} {t t' : Template}
  {code : List Char} {c : Char}

/-! ## What a document has -/

/-- The document has no interface or a correct one. -/
inductive HasInterface (document : Json) : Prop
  | absent (h : document.get? "abi" = none) : HasInterface document
  | listed {abi : Json} {interface : Interface} (habi : document.get? "abi" = some abi)
      (h : Interface.ofJson? abi = some interface) : HasInterface document

/-- The document has this text of code, and these are the references that come with it. A plain text
comes without references. -/
inductive HasCode (document : Json) (text : String) (files? : Option Json) : Prop
  | plain (hcode : document.get? "bytecode" = some (.string text)) (hfiles : files? = none) :
      HasCode document text files?
  | listed {code : Json} (hcode : document.get? "bytecode" = some code)
      (htext : code.get? "object" = some (.string text))
      (hfiles : code.get? "linkReferences" = files?) : HasCode document text files?

/-- The value lists positions, and each of them has a start. -/
def ArePositions (positions : Json) : Prop :=
  ∃ items, positions.items? = some items ∧ ∀ position ∈ items, (startOf? position).isSome

/-- The value lists positions for the libraries of source files. -/
def AreReferences (files : Json) : Prop :=
  files.EachMember (Json.EachMember ArePositions)

/-- The code is what is left of a text when all marks at its front are taken away. -/
def IsUnmarked (text code : List Char) : Prop :=
  (∃ count, text = (List.replicate count ['0', 'x']).flatten ++ code) ∧ ¬ ['0', 'x'] <+: code

/-- A letter or a digit of the basic range, an underscore or a dollar sign. -/
def MayStand (c : Char) : Prop :=
  'A' ≤ c ∧ c ≤ 'Z' ∨ 'a' ≤ c ∧ c ≤ 'z' ∨ '0' ≤ c ∧ c ≤ '9' ∨ c = '_' ∨ c = '$'

/-! ## What is read from it -/

/-- The reference of a library has the starts of its positions, in their order. -/
structure ReadsPositions (library : String) (positions : Json) (r : LinkReference) : Prop where
  library_eq : r.library = library
  starts : ∃ items, positions.items? = some items ∧
    List.Forall₂ (fun position start => startOf? position = some start) items r.offsets

/-- There is one reference for each library of a source file, in the order of their names. -/
def ReadsLibraries (libraries : Json) (refs : List LinkReference) : Prop :=
  ∃ members, libraries.InOrder members ∧
    List.Forall₂ (fun member r => ReadsPositions member.1 member.2 r) members refs

/-- The references are those of all source files, in the order of their names. -/
def ReadsFiles (files : Json) (refs : List LinkReference) : Prop :=
  ∃ members groups, files.InOrder members ∧
    List.Forall₂ (fun member group => ReadsLibraries member.2 group) members groups ∧
    refs = groups.flatten

/-- The references are those that come with a text of code. -/
inductive ReadsReferences : Option Json → List LinkReference → Prop
  | absent : ReadsReferences none []
  | listed {files : Json} {refs : List LinkReference} (h : ReadsFiles files refs) :
      ReadsReferences (some files) refs

/-! ## What is wrong with it -/

/-- What is wrong with the positions of a library. -/
inductive PositionsFault (library : String) (positions : Json) : ArtifactFault → Prop
  | notAList (h : positions.items? = none) :
      PositionsFault library positions (.positionsNotAList library)
  | badPosition {items : List Json} {position : Json} (hitems : positions.items? = some items)
      (hmem : position ∈ items) (h : startOf? position = none) :
      PositionsFault library positions (.badPosition library)

/-- The first thing that is wrong with the libraries of a source file. -/
inductive LibrariesFault (libraries : Json) : ArtifactFault → Prop
  | notAnObject (h : libraries.members? = none) :
      LibrariesFault libraries .referenceEntryNotAnObject
  | positions {before after : List (String × Json)} {library : String} {positions : Json}
      {fault : ArtifactFault} (hmembers : libraries.InOrder (before ++ (library, positions) :: after))
      (hbefore : ∀ member ∈ before, ArePositions member.2)
      (h : PositionsFault library positions fault) : LibrariesFault libraries fault

/-- The first thing that is wrong with the source files. -/
inductive FilesFault (files : Json) : ArtifactFault → Prop
  | notAnObject (h : files.members? = none) : FilesFault files .referencesNotAnObject
  | libraries {before after : List (String × Json)} {file : String} {libraries : Json}
      {fault : ArtifactFault} (hmembers : files.InOrder (before ++ (file, libraries) :: after))
      (hbefore : ∀ member ∈ before, member.2.EachMember ArePositions)
      (h : LibrariesFault libraries fault) : FilesFault files fault

/-- The first thing that is wrong with the place of the code and with its references. -/
inductive TemplateFault (document : Json) : ArtifactFault → Prop
  | noBytecode (h : ∀ code, document.get? "bytecode" = some code →
      code.string? = none ∧ code.members? = none) : TemplateFault document .noBytecode
  | noBytecodeObject {code : Json} (hcode : document.get? "bytecode" = some code)
      (hobject : code.members?.isSome) (h : (code.get? "object").bind Json.string? = none) :
      TemplateFault document .noBytecodeObject
  | references {text : String} {files : Json} {fault : ArtifactFault}
      (hcode : HasCode document text (some files)) (h : FilesFault files fault) :
      TemplateFault document fault

/-- The first thing that is wrong with code. -/
inductive CodeFault : List Char → ArtifactFault → Prop
  | empty : CodeFault [] .emptyBytecode
  | character {before after : List Char} {c : Char} (hbefore : ∀ c ∈ before, MayStand c)
      (hc : ¬ MayStand c) : CodeFault (before ++ c :: after) (.unexpectedCharacter c)

/-- The first thing that is wrong with a document. -/
inductive DocumentFault (document : Json) : ArtifactFault → Prop
  | template {fault : ArtifactFault} (h : TemplateFault document fault) :
      DocumentFault document fault
  | code {text : String} {files? : Option Json} {code : List Char} {fault : ArtifactFault}
      (hcode : HasCode document text files?) (hfiles : ∀ files ∈ files?, AreReferences files)
      (hunmarked : IsUnmarked text.toList code) (h : CodeFault code fault) :
      DocumentFault document fault

/-! ## Positions, libraries and source files -/

/-- A start is read from a position that has one. -/
theorem start?_eq_ok {position : Json} {start : UInt64} :
    start? library position = .ok start ↔ startOf? position = some start := by
  rw [start?, ← startOf?]
  cases startOf? position <;> simp

/-- A position without a start is refused. -/
theorem start?_eq_error {position : Json} : start? library position = .error fault ↔
    startOf? position = none ∧ fault = .badPosition library := by
  rw [start?, ← startOf?]
  cases startOf? position <;> simp [eq_comm]

/-- The positions of a library are read as its reference. -/
theorem reference_eq_ok_iff : reference library j = .ok r ↔ ReadsPositions library j r := by
  cases j with
  | array items =>
    rw [reference, map_eq_ok]
    simp only [mapM_eq_ok, start?_eq_ok]
    constructor
    · rintro ⟨offsets, hoffsets, rfl⟩
      exact ⟨rfl, items, rfl, hoffsets⟩
    · rintro ⟨rfl, _, hitems, hstarts⟩
      obtain rfl := Option.some.inj hitems
      exact ⟨r.offsets, hstarts, rfl⟩
  | null | bool | number | string | object | unreadable =>
    constructor
    · intro h
      cases h
    · rintro ⟨-, items, hitems, -⟩
      cases hitems

/-- The positions of a library are refused for what is wrong with them. -/
theorem reference_eq_error : reference library j = .error fault ↔ PositionsFault library j fault := by
  cases j with
  | array items =>
    rw [reference, map_eq_error]
    constructor
    · intro h
      obtain ⟨position, hmem, hfails⟩ := exists_error_of_mapM h
      obtain ⟨hnone, rfl⟩ := start?_eq_error.mp hfails
      exact .badPosition rfl hmem hnone
    · rintro (hnone | ⟨hitems, hmem, hnone⟩)
      · cases hnone
      · obtain rfl := Option.some.inj hitems
        cases hstarts : items.mapM (start? library) with
        | ok starts =>
          obtain ⟨start, -, hstart⟩ := exists_ok_of_mapM hstarts hmem
          rw [start?_eq_ok, hnone] at hstart
          cases hstart
        | error fault =>
          obtain ⟨_, -, hfails⟩ := exists_error_of_mapM hstarts
          rw [(start?_eq_error.mp hfails).2]
  | null | bool | number | string | object | unreadable =>
    constructor
    · rintro ⟨⟩
      exact .notAList rfl
    · rintro (hnone | ⟨hitems, -, -⟩)
      · rfl
      · cases hitems

/-- There is a reference for positions that all have starts. -/
theorem exists_reference_eq_ok : (∃ r, reference library j = .ok r) ↔ ArePositions j := by
  cases j with
  | array items =>
    rw [reference, exists_map_eq_ok, exists_mapM_eq_ok]
    simp only [start?_eq_ok, ArePositions, Json.items?, Option.some.injEq, exists_eq_left',
      Option.isSome_iff_exists]
  | null | bool | number | string | object | unreadable => simp [reference, ArePositions, Json.items?]

/-- The libraries of a source file are visited in order. -/
theorem fileReferences_eq_visit :
    fileReferences j = Json.visit .referenceEntryNotAnObject reference j := by
  cases j <;> rfl

/-- The source files are visited in order. -/
theorem references_eq_visit : references j =
    (Json.visit .referencesNotAnObject (fun _ libraries => fileReferences libraries) j).map
      List.flatten := by
  cases j <;> rfl

/-- The libraries of a source file are read as one reference each. -/
theorem fileReferences_eq_ok_iff : fileReferences j = .ok refs ↔ ReadsLibraries j refs := by
  rw [fileReferences_eq_visit, Json.visit_eq_ok]
  simp only [reference_eq_ok_iff, ReadsLibraries]

/-- The libraries of a source file can be read when each has positions. -/
theorem exists_fileReferences_eq_ok :
    (∃ refs, fileReferences j = .ok refs) ↔ j.EachMember ArePositions := by
  rw [fileReferences_eq_visit]
  exact Json.exists_visit_eq_ok fun _ _ => exists_reference_eq_ok

/-- The libraries of a source file are refused for the first thing that is wrong with them. -/
theorem fileReferences_eq_error : fileReferences j = .error fault ↔ LibrariesFault j fault := by
  rw [fileReferences_eq_visit, Json.visit_eq_error]
  simp only [exists_reference_eq_ok, reference_eq_error]
  constructor
  · rintro (⟨hnone, rfl⟩ | ⟨before, library, positions, after, hmembers, hbefore, hfault⟩)
    · exact .notAnObject hnone
    · exact .positions hmembers hbefore hfault
  · rintro (hnone | ⟨hmembers, hbefore, hfault⟩)
    · exact Or.inl ⟨hnone, rfl⟩
    · exact Or.inr ⟨_, _, _, _, hmembers, hbefore, hfault⟩

/-- The source files are read as the references of all their libraries. -/
theorem references_eq_ok_iff : references j = .ok refs ↔ ReadsFiles j refs := by
  rw [references_eq_visit, map_eq_ok]
  simp only [Json.visit_eq_ok, fileReferences_eq_ok_iff, ReadsFiles]
  constructor
  · rintro ⟨groups, ⟨members, hmembers, hgroups⟩, rfl⟩
    exact ⟨members, groups, hmembers, hgroups, rfl⟩
  · rintro ⟨members, groups, hmembers, hgroups, rfl⟩
    exact ⟨groups, ⟨members, hmembers, hgroups⟩, rfl⟩

/-- The source files can be read when they list positions for their libraries. -/
theorem exists_references_eq_ok : (∃ refs, references j = .ok refs) ↔ AreReferences j := by
  rw [references_eq_visit, exists_map_eq_ok]
  exact Json.exists_visit_eq_ok fun _ _ => exists_fileReferences_eq_ok

/-- The source files are refused for the first thing that is wrong with them. -/
theorem references_eq_error : references j = .error fault ↔ FilesFault j fault := by
  rw [references_eq_visit, map_eq_error, Json.visit_eq_error]
  simp only [exists_fileReferences_eq_ok, fileReferences_eq_error]
  constructor
  · rintro (⟨hnone, rfl⟩ | ⟨before, file, libraries, after, hmembers, hbefore, hfault⟩)
    · exact .notAnObject hnone
    · exact .libraries hmembers hbefore hfault
  · rintro (hnone | ⟨hmembers, hbefore, hfault⟩)
    · exact Or.inl ⟨hnone, rfl⟩
    · exact Or.inr ⟨_, _, _, _, hmembers, hbefore, hfault⟩

/-! ## The code -/

/-- Dropping the marks leaves the unmarked code. -/
theorem dropMarks_eq_iff {text : List Char} :
    Template.dropMarks text = code ↔ IsUnmarked text code := by
  constructor
  · rintro rfl
    induction text using Template.dropMarks.induct with
    | case1 text ih =>
      obtain ⟨⟨count, htext⟩, hend⟩ := ih
      refine ⟨⟨count + 1, ?_⟩, hend⟩
      rw [List.replicate_succ, List.flatten_cons, List.append_assoc, Template.dropMarks, ← htext]
      rfl
    | case2 text hother =>
      rw [Template.dropMarks.eq_2 text hother]
      refine ⟨⟨0, rfl⟩, ?_⟩
      rintro ⟨rest, htext⟩
      exact hother rest htext.symm
  · rintro ⟨⟨count, rfl⟩, hend⟩
    induction count with
    | zero =>
      refine Template.dropMarks.eq_2 code fun rest hcode => hend ⟨rest, ?_⟩
      exact hcode.symm
    | succ count ih =>
      rw [List.replicate_succ, List.flatten_cons, List.append_assoc]
      exact ih

/-- The characters that may stand in code are the characters of code. -/
theorem isCodeCharacter_iff : isCodeCharacter c = true ↔ MayStand c := by
  have hupper : 'A' ≤ c ∧ c ≤ 'Z' ↔ 65 ≤ c.toNat ∧ c.toNat ≤ 90 := Iff.rfl
  have hlower : 'a' ≤ c ∧ c ≤ 'z' ↔ 97 ≤ c.toNat ∧ c.toNat ≤ 122 := Iff.rfl
  have hdigit : '0' ≤ c ∧ c ≤ '9' ↔ 48 ≤ c.toNat ∧ c.toNat ≤ 57 := Iff.rfl
  rw [MayStand, hupper, hlower, hdigit, isCodeCharacter, Bool.or_eq_true, Bool.or_eq_true,
    isAlphanum_iff_range, beq_iff_eq, beq_iff_eq]
  simp only [or_assoc]

/-- A template passes when its text is not empty and only such characters stand in it. -/
theorem checkTemplate_eq_ok : checkTemplate t = .ok t' ↔
    t = t' ∧ t.text ≠ [] ∧ ∀ c ∈ t.text, MayStand c := by
  have hstand : (t.text.find? fun c => !isCodeCharacter c) = none ↔ ∀ c ∈ t.text, MayStand c := by
    simp [List.find?_eq_none, ← isCodeCharacter_iff]
  rw [checkTemplate, ← hstand]
  by_cases hempty : t.text = []
  · simp [hempty]
  · rw [if_neg hempty]
    cases t.text.find? fun c => !isCodeCharacter c <;> simp [hempty]

/-- A template is refused for the first thing that is wrong with its text. -/
theorem checkTemplate_eq_error : checkTemplate t = .error fault ↔ CodeFault t.text fault := by
  have hfirst (c : Char) : t.text.find? (fun c => !isCodeCharacter c) = some c ↔
      ∃ before after, t.text = before ++ c :: after ∧ (∀ c ∈ before, MayStand c) ∧
        ¬ MayStand c := by
    simp only [List.find?_eq_some_iff_append, Bool.not_not, ← isCodeCharacter_iff,
      Bool.not_eq_true', Bool.not_eq_true]
    constructor
    · rintro ⟨hc, before, after, htext, hbefore⟩
      exact ⟨before, after, htext, hbefore, hc⟩
    · rintro ⟨before, after, htext, hbefore, hc⟩
      exact ⟨hc, before, after, htext, hbefore⟩
  unfold checkTemplate
  constructor
  · intro h
    split at h
    · rename_i hempty
      cases h
      rw [hempty]
      exact .empty
    · split at h
      · rename_i c hc
        cases h
        obtain ⟨before, after, htext, hbefore, hc⟩ := (hfirst c).mp hc
        rw [htext]
        exact .character hbefore hc
      · cases h
  · intro h
    generalize htext : t.text = code at h hfirst
    cases h with
    | empty => rw [if_pos rfl]
    | character hbefore hc =>
      rw [if_neg (by simp), (hfirst _).mpr ⟨_, _, rfl, hbefore, hc⟩]

/-! ## The template -/

/-- The template of a text of code has the references that come with it. -/
theorem HasCode.template_eq (h : HasCode document text files?) :
    template document = (files?.elim (.ok []) references).map (Template.ofText text.toList) := by
  rcases h with ⟨hcode, rfl⟩ | ⟨hcode, htext, rfl⟩
  · rw [template, hcode]
    rfl
  · rename_i code
    cases code with
    | object members =>
      simp only [template, hcode, htext]
      cases (Json.object members).get? "linkReferences" <;> rfl
    | null | bool | number | string | array | unreadable => cases htext

/-- There is no template where something is wrong. -/
theorem template_of_fault (h : TemplateFault document fault) :
    template document = .error fault := by
  cases h with
  | noBytecode hother =>
    unfold template
    split
    · rename_i hcode
      cases (hother _ hcode).1
    · rename_i hcode
      cases (hother _ hcode).2
    · rfl
  | @noBytecodeObject code hcode hobject htext =>
    cases code with
    | object members =>
      simp only [template, hcode]
      split
      · rename_i hstring
        rw [hstring] at htext
        cases htext
      · rfl
    | null | bool | number | string | array | unreadable => cases hobject
  | references hcode hfault =>
    rw [hcode.template_eq, map_eq_error]
    exact references_eq_error.mpr hfault

/-- A document has a text of code, or something is wrong before any reference is read. -/
theorem hasCode_or (document : Json) : (∃ text files?, HasCode document text files?) ∨
    ∃ fault, TemplateFault document fault := by
  cases hcode : document.get? "bytecode" with
  | none => exact Or.inr ⟨_, .noBytecode fun code hsome => by simp [hcode] at hsome⟩
  | some code =>
    cases code with
    | string text => exact Or.inl ⟨text, none, .plain hcode rfl⟩
    | object members =>
      cases htext : ((Json.object members).get? "object").bind Json.string? with
      | none => exact Or.inr ⟨_, .noBytecodeObject hcode rfl htext⟩
      | some text =>
        obtain ⟨value, hvalue, hstring⟩ := Option.bind_eq_some_iff.mp htext
        rw [Json.string?_eq_some.mp hstring] at hvalue
        exact Or.inl ⟨text, _, .listed hcode hvalue rfl⟩
    | null | bool | number | array | unreadable =>
      refine Or.inr ⟨_, .noBytecode fun code hsome => ?_⟩
      obtain rfl := Option.some.inj (hcode.symm.trans hsome)
      exact ⟨rfl, rfl⟩

/-- The references are read that come with a text of code. -/
theorem elim_references_eq_ok :
    files?.elim (.ok []) references = .ok refs ↔ ReadsReferences files? refs := by
  cases files? with
  | none =>
    constructor
    · rintro ⟨⟩
      exact .absent
    · rintro ⟨⟩
      rfl
  | some files =>
    constructor
    · exact fun h => .listed (references_eq_ok_iff.mp h)
    · rintro ⟨⟩
      exact references_eq_ok_iff.mpr (by assumption)

/-- References can be read when there are none or they list positions. -/
theorem exists_readsReferences :
    (∃ refs, ReadsReferences files? refs) ↔ ∀ files ∈ files?, AreReferences files := by
  simp only [← elim_references_eq_ok]
  cases files? with
  | none => simp
  | some files => simpa using exists_references_eq_ok

/-- The template of a document has the unmarked code and the references that come with it. -/
theorem template_eq_ok_iff : template document = .ok t ↔ ∃ text files?,
    HasCode document text files? ∧ IsUnmarked text.toList t.text ∧
      ReadsReferences files? t.references := by
  constructor
  · intro h
    rcases hasCode_or document with ⟨text, files?, hcode⟩ | ⟨fault, hfault⟩
    · rw [hcode.template_eq, map_eq_ok] at h
      obtain ⟨refs, hrefs, rfl⟩ := h
      exact ⟨text, files?, hcode, dropMarks_eq_iff.mp rfl, elim_references_eq_ok.mp hrefs⟩
    · rw [template_of_fault hfault] at h
      cases h
  · rintro ⟨text, files?, hcode, hunmarked, hrefs⟩
    rw [hcode.template_eq, map_eq_ok]
    refine ⟨t.references, elim_references_eq_ok.mpr hrefs, ?_⟩
    rw [Template.ofText, dropMarks_eq_iff.mpr hunmarked]

/-- A document has no template for the first thing that is wrong with the place of its code or with
its references. -/
theorem template_eq_error : template document = .error fault ↔ TemplateFault document fault := by
  refine ⟨fun h => ?_, template_of_fault⟩
  rcases hasCode_or document with ⟨text, files?, hcode⟩ | ⟨fault', hfault⟩
  · rw [hcode.template_eq, map_eq_error] at h
    cases files? with
    | none => cases h
    | some files => exact .references hcode (references_eq_error.mp h)
  · rw [template_of_fault hfault] at h
    exact Except.error.inj h ▸ hfault

/-! ## The artifact -/

/-- The interface of a document is read when it has none or a correct one. -/
theorem exists_interfaceOf_eq_ok (h : HasInterface document) :
    ∃ interface, interfaceOf document = .ok interface := by
  cases h with
  | absent habi => exact ⟨.empty, by simp only [interfaceOf, habi]⟩
  | @listed abi interface habi hread =>
    exact ⟨interface, by simp only [interfaceOf, habi, hread]⟩

/-- There is an artifact for a template that passes. -/
theorem exists_ofJson_eq_ok (h : HasInterface document) :
    (∃ a, ofJson name document = .ok a ∧ a.bytecode = t) ↔
      template document = .ok t ∧ t.text ≠ [] ∧ ∀ c ∈ t.text, MayStand c := by
  obtain ⟨interface, hinterface⟩ := exists_interfaceOf_eq_ok h
  simp only [ofJson, mapError_eq_ok, read, hinterface, bind_eq_ok, checkTemplate_eq_ok, Pure.pure,
    Except.pure, Except.ok.injEq]
  constructor
  · rintro ⟨a, ⟨_, rfl, t', htemplate, _, ⟨rfl, hpasses⟩, rfl⟩, rfl⟩
    exact ⟨htemplate, hpasses⟩
  · rintro ⟨htemplate, hpasses⟩
    exact ⟨_, ⟨_, rfl, t, htemplate, t, ⟨rfl, hpasses⟩, rfl⟩, rfl⟩

/-- There is no artifact without a template, or for what is wrong with the text of the template. -/
theorem ofJson_eq_error {e : ArtifactError} (h : HasInterface document) :
    ofJson name document = .error e ↔ ∃ fault, e = .malformed name fault ∧
      (TemplateFault document fault ∨
        ∃ t, template document = .ok t ∧ CodeFault t.text fault) := by
  obtain ⟨interface, hinterface⟩ := exists_interfaceOf_eq_ok h
  simp only [ofJson, mapError_eq_error, read, hinterface, bind_eq_error, template_eq_error,
    checkTemplate_eq_error, Pure.pure, Except.pure, reduceCtorEq, and_false, exists_false, or_false,
    false_or, Except.ok.injEq, exists_eq_left']
  simp only [and_comm, eq_comm]

/-- A document without an interface or with a correct one is read as an artifact exactly when it has
code in one of the two places, the references that come with it list positions that have starts, and
without its marks the code is not empty and made of letters, digits, underscores and dollar signs.
The artifact has this code as it is written, and for each library of each source file, in the order
of their names, one reference with its starts in their order. Any other document is refused for the
first thing that is wrong with it. -/
theorem ofJson_outcome (name : String) (hinterface : HasInterface document) :
    ((∃ a, ofJson name document = .ok a) ↔ ∃ text files? code, HasCode document text files? ∧
      (∀ files ∈ files?, AreReferences files) ∧ IsUnmarked text.toList code ∧ code ≠ [] ∧
      ∀ c ∈ code, MayStand c) ∧
    (∀ a, ofJson name document = .ok a → ∃ text files?, HasCode document text files? ∧
      IsUnmarked text.toList a.bytecode.text ∧ ReadsReferences files? a.bytecode.references) ∧
    ∀ e, ofJson name document = .error e ↔
      ∃ fault, e = .malformed name fault ∧ DocumentFault document fault := by
  refine ⟨⟨?_, ?_⟩, fun a ha => ?_, fun e => ?_⟩
  · rintro ⟨a, ha⟩
    obtain ⟨htemplate, hpasses⟩ := (exists_ofJson_eq_ok hinterface).mp ⟨a, ha, rfl⟩
    obtain ⟨text, files?, hcode, hunmarked, hrefs⟩ := template_eq_ok_iff.mp htemplate
    exact ⟨text, files?, _, hcode, exists_readsReferences.mp ⟨_, hrefs⟩, hunmarked, hpasses⟩
  · rintro ⟨text, files?, code, hcode, hfiles, hunmarked, hpasses⟩
    obtain ⟨refs, hrefs⟩ := exists_readsReferences.mpr hfiles
    have htemplate : template document = .ok ⟨code, refs⟩ :=
      template_eq_ok_iff.mpr ⟨text, files?, hcode, hunmarked, hrefs⟩
    obtain ⟨a, ha, -⟩ := (exists_ofJson_eq_ok hinterface).mpr ⟨htemplate, hpasses⟩
    exact ⟨a, ha⟩
  · exact template_eq_ok_iff.mp ((exists_ofJson_eq_ok hinterface).mp ⟨a, ha, rfl⟩).1
  · rw [ofJson_eq_error hinterface]
    refine exists_congr fun fault => and_congr_right fun _ => ⟨?_, ?_⟩
    · rintro (hfault | ⟨t, htemplate, hfault⟩)
      · exact .template hfault
      · obtain ⟨text, files?, hcode, hunmarked, hrefs⟩ := template_eq_ok_iff.mp htemplate
        exact .code hcode (exists_readsReferences.mp ⟨_, hrefs⟩) hunmarked hfault
    · rintro (hfault | ⟨hcode, hfiles, hunmarked, hfault⟩)
      · exact Or.inl hfault
      · obtain ⟨refs, hrefs⟩ := exists_readsReferences.mpr hfiles
        exact Or.inr ⟨⟨_, refs⟩, template_eq_ok_iff.mpr ⟨_, _, hcode, hunmarked, hrefs⟩, hfault⟩

/-- Code with two marks, whose libraries are listed out of order. -/
def outOfOrder : Json :=
  .object [("bytecode", .object [
    ("linkReferences", .object [
      ("b.sol", .object [("Lib", onePosition 9)]),
      ("a.sol", .object [
        ("Math", .array [.object [("start", .ofNat 7)], .object [("start", .ofNat 1)]]),
        ("Lib", .array [])])]),
    ("object", .string "0x0x6F_$")])]

/-- It is read with its code as it is written and with every reference in its place. -/
theorem ofJson_outcome_of_outOfOrder :
    HasInterface outOfOrder ∧
    (∃ text files? code, HasCode outOfOrder text files? ∧
      (∀ files ∈ files?, AreReferences files) ∧ IsUnmarked text.toList code ∧ code ≠ [] ∧
      ∀ c ∈ code, MayStand c) ∧
    ∃ a, ofJson "App" outOfOrder = .ok a ∧ a.bytecode = ⟨['6', 'F', '_', '$'],
      [⟨"Lib", []⟩, ⟨"Math", [7, 1]⟩, ⟨"Lib", [9]⟩]⟩ := by
  have hinterface : HasInterface outOfOrder := .absent rfl
  have hread : ∃ a, ofJson "App" outOfOrder = .ok a ∧ a.bytecode = ⟨['6', 'F', '_', '$'],
      [⟨"Lib", []⟩, ⟨"Math", [7, 1]⟩, ⟨"Lib", [9]⟩]⟩ := ⟨_, rfl, rfl⟩
  obtain ⟨a, ha, hbytecode⟩ := hread
  exact ⟨hinterface, (ofJson_outcome "App" hinterface).1.mp ⟨a, ha⟩, a, ha, hbytecode⟩

end Rollout.Artifact
