import Rollout.Artifact.Basic
import Rollout.Proofs.Bytecode.Offsets
import Rollout.Proofs.Json.Members

/-!
# Listed positions

A document lists the positions of libraries by source file and by name. The reader keeps them in one
list of references, the files in the order of their names, and a library is linked at the positions
of its first reference. What the document lists for the library under later files is passed over.
-/

namespace Rollout.Artifact

/-- The positions that a document lists for a library under a source file. -/
def positionsOf? (document : Json) (file library : String) : Option (List Json) := do
  let code ← document.get? "bytecode"
  let files ← code.get? "linkReferences"
  let libraries ← files.get? file
  let positions ← libraries.get? library
  positions.items?

/-- A place in the lists of a document. -/
structure Listing where
  file : String
  library : String
  index : ℕ
  deriving DecidableEq

/-- The byte offset of a position. -/
def startOf? (position : Json) : Option UInt64 :=
  (position.get? "start").bind Json.uint64?

/-- The byte offset that a document has at a place. -/
def offsetAt? (document : Json) (x : Listing) : Option UInt64 := do
  let positions ← positionsOf? document x.file x.library
  let position ← positions[x.index]?
  startOf? position

/-- All listed positions are in range of a text, and no two of them are closer than an address is
long. -/
structure ListsApart (document : Json) (length : ℕ) : Prop where
  inRange : ∀ x offset, offsetAt? document x = some offset →
    2 * offset.toNat + placeholderLength ≤ length
  farApart : ∀ x y offset other, x ≠ y → offsetAt? document x = some offset →
    offsetAt? document y = some other → FarApart offset other

variable {document j : Json} {name file library : String} {positions : List Json}
  {r : LinkReference} {refs : List LinkReference} {t : Template} {a : Artifact}

/-- A reference has the offsets of a list of positions. -/
theorem reference_eq_ok (hread : reference library j = .ok r) :
    r.library = library ∧ ∃ positions, j.items? = some positions ∧
      ∀ i : ℕ, r.offsets[i]? = positions[i]?.bind startOf? := by
  unfold reference at hread
  split at hread
  · rename_i positions
    obtain ⟨offsets, hoffsets, rfl⟩ := map_eq_ok.mp hread
    refine ⟨rfl, positions, rfl, fun i => ?_⟩
    have hstarts := mapM_eq_ok.mp hoffsets
    clear hread hoffsets
    induction hstarts generalizing i with
    | nil => rfl
    | @cons position offset positions offsets hfirst _ ih =>
      cases i with
      | succ i => exact ih i
      | zero =>
        unfold start? at hfirst
        split at hfirst
        · rename_i start hstart
          obtain rfl := Except.ok.inj hfirst
          exact hstart.symm
        · cases hfirst
  · cases hread

/-- What is read for one source file has a reference for each of its libraries and no other one. -/
theorem fileReferences_eq_ok (hread : fileReferences j = .ok refs) :
    (∀ r ∈ refs, ∃ value, j.get? r.library = some value ∧ reference r.library value = .ok r) ∧
    ∀ library value, j.get? library = some value →
      ∃ r ∈ refs, reference library value = .ok r := by
  unfold fileReferences at hread
  split at hread
  · refine ⟨fun r hr => ?_, fun library value hvalue => ?_⟩
    · obtain ⟨member, hmember, hr⟩ := exists_mem_of_mapM hread hr
      rw [(reference_eq_ok hr).1]
      exact ⟨member.2, Json.mem_sortedMembers.mp hmember, hr⟩
    · exact exists_ok_of_mapM hread (Json.mem_sortedMembers.mpr hvalue)
  · cases hread

/-- Every reference is read for a library of some source file. -/
theorem exists_file_of_mem_references {files : Json} (hread : references files = .ok refs)
    (hr : r ∈ refs) : ∃ file libraries value, files.get? file = some libraries ∧
      libraries.get? r.library = some value ∧ reference r.library value = .ok r := by
  unfold references at hread
  split at hread
  · obtain ⟨groups, hgroups, rfl⟩ := map_eq_ok.mp hread
    obtain ⟨group, hgroup, hr⟩ := List.mem_flatten.mp hr
    obtain ⟨member, hmember, hlibraries⟩ := exists_mem_of_mapM hgroups hgroup
    obtain ⟨value, hvalue, hreference⟩ := (fileReferences_eq_ok hlibraries).1 r hr
    exact ⟨member.1, member.2, value, Json.mem_sortedMembers.mp hmember, hvalue, hreference⟩
  · cases hread

/-- A library of a source file is found among what is read for the file. -/
theorem find?_fileReferences {value : Json} (hread : fileReferences j = .ok refs)
    (hvalue : j.get? library = some value) :
    ∃ r, refs.find? (·.library == library) = some r ∧ reference library value = .ok r := by
  obtain ⟨hlisted, hall⟩ := fileReferences_eq_ok hread
  obtain ⟨r, hr, hreference⟩ := hall library value hvalue
  have hfound : (refs.find? (·.library == library)).isSome := by
    rw [List.find?_isSome]
    exact ⟨r, hr, beq_iff_eq.mpr (reference_eq_ok hreference).1⟩
  obtain ⟨found, hfound⟩ := Option.isSome_iff_exists.mp hfound
  refine ⟨found, hfound, ?_⟩
  obtain ⟨value', hvalue', hread⟩ := hlisted found (List.mem_of_find?_eq_some hfound)
  have hname : found.library = library := by simpa using List.find?_some hfound
  rw [hname, hvalue] at hvalue'
  rwa [hname, ← Option.some.inj hvalue'] at hread

/-- A library without positions is not found among what is read for a source file. -/
theorem find?_fileReferences_eq_none (hread : fileReferences j = .ok refs)
    (hnone : ∀ value, j.get? library = some value → value.items? = none) :
    refs.find? (·.library == library) = none := by
  rw [List.find?_eq_none]
  intro r hr hlibrary
  obtain rfl := beq_iff_eq.mp hlibrary
  obtain ⟨value, hvalue, hreference⟩ := (fileReferences_eq_ok hread).1 r hr
  obtain ⟨-, positions, hitems, -⟩ := reference_eq_ok hreference
  rw [hnone value hvalue] at hitems
  cases hitems

/-- Of several source files in the order of their names, the first that has the library counts. -/
theorem find?_flatten {members : List (String × Json)} {groups : List (List LinkReference)}
    {libraries value : Json}
    (hgroups : List.Forall₂ (fun member refs => fileReferences member.2 = .ok refs) members groups)
    (hsorted : members.Pairwise fun a b => a.1 < b.1) (hfile : (file, libraries) ∈ members)
    (hvalue : libraries.get? library = some value)
    (hfirst : ∀ member ∈ members, member.1 < file →
      ∀ value', member.2.get? library = some value' → value'.items? = none) :
    ∃ r, groups.flatten.find? (·.library == library) = some r ∧
      reference library value = .ok r := by
  induction hgroups with
  | nil => cases hfile
  | @cons member refs members groups hrefs _ ih =>
    obtain ⟨hbefore, hsorted⟩ := List.pairwise_cons.mp hsorted
    obtain ⟨hmember, hfirst⟩ := List.forall_mem_cons.mp hfirst
    rw [List.flatten_cons, List.find?_append]
    rcases List.mem_cons.mp hfile with rfl | hfile
    · obtain ⟨r, hfound, hreference⟩ := find?_fileReferences hrefs hvalue
      exact ⟨r, by rw [hfound, Option.some_or], hreference⟩
    · rw [find?_fileReferences_eq_none hrefs (hmember (hbefore _ hfile)), Option.none_or]
      exact ih hsorted hfile hfirst

/-- The first reference of a library is read for the first source file that has the library. -/
theorem find?_references {files libraries value : Json} (hread : references files = .ok refs)
    (hfile : files.get? file = some libraries) (hvalue : libraries.get? library = some value)
    (hfirst : ∀ other libraries' value', other < file → files.get? other = some libraries' →
      libraries'.get? library = some value' → value'.items? = none) :
    ∃ r, refs.find? (·.library == library) = some r ∧ reference library value = .ok r := by
  unfold references at hread
  split at hread
  · obtain ⟨groups, hgroups, rfl⟩ := map_eq_ok.mp hread
    refine find?_flatten (mapM_eq_ok.mp hgroups) (Json.pairwise_sortedMembers _)
      (Json.mem_sortedMembers.mpr hfile) hvalue fun member hmember hlt value' => ?_
    exact hfirst member.1 member.2 value' hlt (Json.mem_sortedMembers.mp hmember)
  · cases hread

/-- The references of a document, if it has any. -/
def referencesOf? (document : Json) : Option Json :=
  (document.get? "bytecode").bind (·.get? "linkReferences")

/-- Positions are looked up in the references of the document. -/
theorem positionsOf?_eq (document : Json) (file library : String) :
    positionsOf? document file library = (referencesOf? document).bind fun files =>
      (files.get? file).bind fun libraries => (libraries.get? library).bind Json.items? := by
  simp [positionsOf?, referencesOf?, Option.bind_assoc]

/-- A template has the references of its document. -/
theorem template_eq_ok (hread : template document = .ok t) :
    referencesOf? document = none ∧ t.references = [] ∨
      ∃ files, referencesOf? document = some files ∧ references files = .ok t.references := by
  unfold template at hread
  unfold referencesOf?
  split at hread
  · rename_i text hcode
    obtain rfl := Except.ok.inj hread
    exact Or.inl ⟨by rw [hcode]; rfl, rfl⟩
  · rename_i code hcode
    rw [hcode, Option.bind_some]
    split at hread
    · split at hread
      · rename_i files hfiles
        obtain ⟨refs, hrefs, rfl⟩ := map_eq_ok.mp hread
        exact Or.inr ⟨files, hfiles, hrefs⟩
      · rename_i hfiles
        obtain rfl := Except.ok.inj hread
        exact Or.inl ⟨hfiles, rfl⟩
    · cases hread
  · cases hread

/-- Whatever offsets a library has are listed for it, all under one source file. -/
theorem exists_offsetAt?_eq (hread : template document = .ok t) (library : String) :
    ∃ file, ∀ (i : ℕ) (offset : UInt64), (t.offsetsOf library)[i]? = some offset →
      offsetAt? document ⟨file, library, i⟩ = some offset := by
  unfold Template.offsetsOf
  cases hfound : t.references.find? (·.library == library) with
  | none => exact ⟨"", fun i offset hoffset => by simp at hoffset⟩
  | some r =>
    have hr := List.mem_of_find?_eq_some hfound
    have hname : r.library = library := by simpa using List.find?_some hfound
    rcases template_eq_ok hread with ⟨-, hnone⟩ | ⟨files, hfiles, hreferences⟩
    · rw [hnone] at hr
      cases hr
    · obtain ⟨file, libraries, value, hlibraries, hvalue, hreference⟩ :=
        exists_file_of_mem_references hreferences hr
      obtain ⟨-, positions, hitems, hoffsets⟩ := reference_eq_ok hreference
      rw [hname] at hvalue
      refine ⟨file, fun i offset hoffset => ?_⟩
      rw [Option.map_some, Option.getD_some, hoffsets] at hoffset
      simpa [offsetAt?, positionsOf?_eq, hfiles, hlibraries, hvalue, hitems] using hoffset

/-- A library has the offsets that are listed for it under the first source file that has it. -/
theorem getElem?_offsetsOf (hread : template document = .ok t)
    (hentry : positionsOf? document file library = some positions)
    (hfirst : ∀ other < file, positionsOf? document other library = none) (i : ℕ) :
    (t.offsetsOf library)[i]? = offsetAt? document ⟨file, library, i⟩ := by
  rw [positionsOf?_eq] at hentry
  obtain ⟨files, hfiles, hentry⟩ := Option.bind_eq_some_iff.mp hentry
  obtain ⟨libraries, hlibraries, hentry⟩ := Option.bind_eq_some_iff.mp hentry
  obtain ⟨value, hvalue, hitems⟩ := Option.bind_eq_some_iff.mp hentry
  rcases template_eq_ok hread with ⟨hnone, -⟩ | ⟨files', hfiles', hreferences⟩
  · rw [hnone] at hfiles
    cases hfiles
  · obtain rfl : files' = files := Option.some.inj (hfiles'.symm.trans hfiles)
    have hfirst' : ∀ other libraries' value', other < file → files'.get? other = some libraries' →
        libraries'.get? library = some value' → value'.items? = none := by
      intro other libraries' value' hlt hlibraries' hvalue'
      simpa [positionsOf?_eq, hfiles, hlibraries', hvalue'] using hfirst other hlt
    obtain ⟨r, hfound, hreference⟩ := find?_references hreferences hlibraries hvalue hfirst'
    obtain ⟨-, positions', hitems', hoffsets⟩ := reference_eq_ok hreference
    obtain rfl : positions' = positions := Option.some.inj (hitems'.symm.trans hitems)
    rw [Template.offsetsOf, hfound, Option.map_some, Option.getD_some, hoffsets]
    simp [offsetAt?, positionsOf?_eq, hfiles, hlibraries, hvalue, hitems]

/-- A character of code takes one byte. -/
theorem utf8Size_of_isCodeCharacter {c : Char} (hc : isCodeCharacter c) : c.utf8Size = 1 := by
  simp only [isCodeCharacter, Bool.or_eq_true, beq_iff_eq] at hc
  rcases hc with (hc | rfl) | rfl
  · refine Char.utf8Size_eq_one_iff.mpr (UInt32.le_iff_toNat_le.mpr ?_)
    have hrange := range_of_isAlphanum hc
    change c.toNat ≤ 127
    omega
  · decide
  · decide

/-- The template of an artifact is that of its document, and its text is made of characters of
code. -/
theorem isCodeCharacter_of_ofJson (hread : ofJson name document = .ok a) :
    template document = .ok a.bytecode ∧ ∀ c ∈ a.bytecode.text, isCodeCharacter c := by
  have hread := mapError_eq_ok.mp hread
  unfold read at hread
  obtain ⟨interface, -, hread⟩ := bind_eq_ok.mp hread
  obtain ⟨t, htemplate, hread⟩ := bind_eq_ok.mp hread
  obtain ⟨bytecode, hbytecode, hread⟩ := bind_eq_ok.mp hread
  obtain rfl := Except.ok.inj hread
  unfold checkTemplate at hbytecode
  split at hbytecode
  · cases hbytecode
  · split at hbytecode
    · cases hbytecode
    · rename_i hcharacters
      obtain rfl := Except.ok.inj hbytecode
      exact ⟨htemplate, fun c hc => by simpa using List.find?_eq_none.mp hcharacters c hc⟩

/-- The template of an artifact is that of its document, and every character takes one byte. -/
theorem ofJson_eq_ok (hread : ofJson name document = .ok a) :
    template document = .ok a.bytecode ∧ IsSingleByte a.bytecode.text := by
  obtain ⟨htemplate, hcharacters⟩ := isCodeCharacter_of_ofJson hread
  exact ⟨htemplate, fun c hc => utf8Size_of_isCodeCharacter (hcharacters c hc)⟩

/-- The offsets of a library are in range, if all listed positions are. -/
theorem inRange_of_listsApart (hread : template document = .ok t)
    (hlists : ListsApart document t.text.length) (library : String) : t.InRange library := by
  intro offset hoffset
  obtain ⟨file, hfile⟩ := exists_offsetAt?_eq hread library
  obtain ⟨i, hi⟩ := List.mem_iff_getElem?.mp hoffset
  exact hlists.inRange _ _ (hfile i offset hi)

/-- An offset that is listed for a library is far from the offsets of the others. -/
theorem farApart_of_listsApart {length : ℕ} (hread : template document = .ok t)
    (hlists : ListsApart document length) {x : Listing} {start : UInt64}
    (hstart : offsetAt? document x = some start) (hlibrary : library ≠ x.library) :
    ∀ offset ∈ t.offsetsOf library, FarApart start offset := by
  intro offset hoffset
  obtain ⟨file, hfile⟩ := exists_offsetAt?_eq hread library
  obtain ⟨i, hi⟩ := List.mem_iff_getElem?.mp hoffset
  refine hlists.farApart x ⟨file, library, i⟩ _ _ (fun h => hlibrary ?_) hstart (hfile i offset hi)
  rw [h]

/-- The offsets of a library are far from each other. -/
theorem pairwise_offsetsOf {length : ℕ} (hread : template document = .ok t)
    (hlists : ListsApart document length) (library : String) :
    (t.offsetsOf library).Pairwise FarApart := by
  obtain ⟨file, hfile⟩ := exists_offsetAt?_eq hread library
  rw [List.pairwise_iff_getElem]
  intro i j hi hj hlt
  refine hlists.farApart ⟨file, library, i⟩ ⟨file, library, j⟩ _ _ (fun h => ?_)
    (hfile i _ (List.getElem?_eq_getElem hi)) (hfile j _ (List.getElem?_eq_getElem hj))
  exact hlt.ne (Listing.mk.inj h).2.2

/-- A list of one position. -/
def onePosition (start : ℕ) : Json :=
  .array [.object [("start", .ofNat start), ("length", .ofNat 20)]]

/-- Code of 60 zero bytes with a place for `Lib` under each of two source files, and with one for
`Math`. -/
def twoFiles : Json :=
  .object [("bytecode", .object [
    ("object", .string (String.ofList (List.replicate 120 '0'))),
    ("linkReferences", .object [
      ("a.sol", .object [("Lib", onePosition 0)]),
      ("b.sol", .object [("Lib", onePosition 20), ("Math", onePosition 40)])])])]

/-- A list of one position has one offset. -/
theorem of_onePosition {start i : ℕ} {position : Json} {offset : UInt64}
    (hitems : (onePosition start).items? = some positions)
    (hposition : positions[i]? = some position) (hoffset : startOf? position = some offset) :
    i = 0 ∧ (Json.ofNat start).uint64? = some offset := by
  obtain rfl := Option.some.inj hitems
  cases i with
  | zero =>
    obtain rfl := Option.some.inj hposition
    exact ⟨rfl, hoffset⟩
  | succ i => cases hposition

/-- The document has three lists of positions. -/
theorem positionsOf?_twoFiles (hpositions : positionsOf? twoFiles file library = some positions) :
    (file = "a.sol" ∧ library = "Lib" ∧ (onePosition 0).items? = some positions) ∨
      (file = "b.sol" ∧ library = "Lib" ∧ (onePosition 20).items? = some positions) ∨
      (file = "b.sol" ∧ library = "Math" ∧ (onePosition 40).items? = some positions) := by
  rw [positionsOf?_eq] at hpositions
  obtain ⟨files, hfiles, hpositions⟩ := Option.bind_eq_some_iff.mp hpositions
  obtain ⟨libraries, hlibraries, hpositions⟩ := Option.bind_eq_some_iff.mp hpositions
  obtain ⟨value, hvalue, hitems⟩ := Option.bind_eq_some_iff.mp hpositions
  obtain rfl := Option.some.inj hfiles
  have hfile := Json.mem_of_get?_eq_some hlibraries
  simp only [List.mem_cons, List.not_mem_nil, or_false, Prod.mk.injEq] at hfile
  rcases hfile with ⟨rfl, rfl⟩ | ⟨rfl, rfl⟩
  · obtain ⟨rfl, rfl⟩ := by simpa using Json.mem_of_get?_eq_some hvalue
    exact Or.inl ⟨rfl, rfl, hitems⟩
  · have hlibrary := Json.mem_of_get?_eq_some hvalue
    simp only [List.mem_cons, List.not_mem_nil, or_false, Prod.mk.injEq] at hlibrary
    rcases hlibrary with ⟨rfl, rfl⟩ | ⟨rfl, rfl⟩
    · exact Or.inr (Or.inl ⟨rfl, rfl, hitems⟩)
    · exact Or.inr (Or.inr ⟨rfl, rfl, hitems⟩)

/-- So it has three offsets. -/
theorem offsetAt?_twoFiles {x : Listing} {offset : UInt64}
    (hoffset : offsetAt? twoFiles x = some offset) :
    x = ⟨"a.sol", "Lib", 0⟩ ∧ offset = 0 ∨ x = ⟨"b.sol", "Lib", 0⟩ ∧ offset = 20 ∨
      x = ⟨"b.sol", "Math", 0⟩ ∧ offset = 40 := by
  obtain ⟨file, library, index⟩ := x
  obtain ⟨positions, hpositions, hplace⟩ := Option.bind_eq_some_iff.mp hoffset
  obtain ⟨position, hposition, hstart⟩ := Option.bind_eq_some_iff.mp hplace
  rcases positionsOf?_twoFiles hpositions with
    ⟨rfl, rfl, hitems⟩ | ⟨rfl, rfl, hitems⟩ | ⟨rfl, rfl, hitems⟩
  · obtain ⟨rfl, hstart⟩ := of_onePosition hitems hposition hstart
    exact Or.inl ⟨rfl, (Option.some.inj hstart).symm⟩
  · obtain ⟨rfl, hstart⟩ := of_onePosition hitems hposition hstart
    exact Or.inr (Or.inl ⟨rfl, (Option.some.inj hstart).symm⟩)
  · obtain ⟨rfl, hstart⟩ := of_onePosition hitems hposition hstart
    exact Or.inr (Or.inr ⟨rfl, (Option.some.inj hstart).symm⟩)

/-- Its positions are in range of its code, and they lie apart. -/
theorem listsApart_twoFiles : ListsApart twoFiles 120 where
  inRange x offset hoffset := by
    rcases offsetAt?_twoFiles hoffset with ⟨-, rfl⟩ | ⟨-, rfl⟩ | ⟨-, rfl⟩ <;> decide
  farApart x y offset other hne hoffset hother := by
    rcases offsetAt?_twoFiles hoffset with ⟨rfl, rfl⟩ | ⟨rfl, rfl⟩ | ⟨rfl, rfl⟩ <;>
      rcases offsetAt?_twoFiles hother with ⟨rfl, rfl⟩ | ⟨rfl, rfl⟩ | ⟨rfl, rfl⟩ <;>
        first
        | exact absurd rfl hne
        | (unfold FarApart; decide)

/-- After whatever other links, linking a library whose positions are in range and far from all
others is no failure, and it writes the address at every position that is listed for the library
under the first source file that has it. The address stays there when other libraries are linked
later, so the code that is taken in the end holds its bytes at each of these positions. -/
theorem link_listed (hread : ofJson name document = .ok a)
    (hlists : ListsApart document a.bytecode.text.length)
    (hfirst : ∀ other < file, positionsOf? document other library = none) (unit : String)
    (earlier : List Binding) (source : Option String) (address : Address) :
    ∃ count linked,
      (a.bytecode.linkAll unit earlier).link unit library source address = (.ok count, linked) ∧
      ∀ (i : ℕ) (start : UInt64), offsetAt? document ⟨file, library, i⟩ = some start →
        ∀ later : List Binding, (∀ b ∈ later, b.library ≠ library) →
          address.hex <+: (linked.linkAll unit later).text.drop (2 * start.toNat) ∧
          ∀ code, (linked.linkAll unit later).toBytes unit = .ok code →
            address.bytes <+: code.drop start.toNat := by
  obtain ⟨htemplate, htext⟩ := ofJson_eq_ok hread
  have hrange := inRange_of_listsApart htemplate hlists
  obtain ⟨before, hbefore, hkept⟩ :=
    Template.linkAll_eq unit htext fun b (_ : b ∈ earlier) => hrange b.library
  obtain ⟨count, text, hlink, hbound, hkeeps⟩ := Template.link_eq_ok (hkept.isSingleByte htext)
    ((hrange library).withText hkept.length_eq) unit source address
  have hlength : text.length = a.bytecode.text.length := hkeeps.length_eq.trans hkept.length_eq
  refine ⟨count, _, by rw [hbefore, hlink], fun i start hstart later hother => ?_⟩
  obtain ⟨after, hafter, hkeptLater⟩ :=
    Template.linkAll_eq unit (hkeeps.isSingleByte (hkept.isSingleByte htext))
      fun b (_ : b ∈ later) => (hrange b.library).withText hlength
  have hwritten : address.hex <+: text.drop (2 * start.toNat) := by
    obtain ⟨positions, hentry, -⟩ := Option.bind_eq_some_iff.mp hstart
    have hoffset := hstart
    rw [← getElem?_offsetsOf htemplate hentry hfirst] at hoffset
    exact hbound (pairwise_offsetsOf htemplate hlists library) start (List.mem_of_getElem? hoffset)
  have hstays : address.hex <+: after.drop (2 * start.toNat) := by
    refine hkeptLater.prefix_drop _ _ (fun b hb => ?_) hwritten
    exact Template.isApart_of_isDigits (isDigits_hex address) (FixedBytes.length_hex address)
      (farApart_of_listsApart htemplate hlists hstart (hother b hb))
  rw [hafter]
  exact ⟨hstays, fun code hcode => Template.prefix_drop_of_toBytes hcode hstays⟩

set_option maxRecDepth 4000 in
/-- The place that is listed first holds the address in the code, also when `Math` is linked. -/
theorem link_listed_of_twoFiles :
    ∃ a, ofJson "App" twoFiles = .ok a ∧ ListsApart twoFiles a.bytecode.text.length ∧
      ∃ linked, a.bytecode.link "App" "Lib" none (Address.repeating 7) = (.ok 1, linked) ∧
        ∃ code, (linked.linkAll "App" [⟨"Math", none, Address.repeating 8⟩]).toBytes "App" =
          .ok code ∧ (Address.repeating 7).bytes <+: code := by
  let address := Address.repeating 7
  let mathBinding : Binding := ⟨"Math", none, Address.repeating 8⟩
  obtain ⟨a, linked, code, hread, hlength, hlink, hcode⟩ : ∃ a linked code,
      ofJson "App" twoFiles = .ok a ∧ a.bytecode.text.length = 120 ∧
        a.bytecode.link "App" "Lib" none address = (.ok 1, linked) ∧
        (linked.linkAll "App" [mathBinding]).toBytes "App" = .ok code :=
    ⟨_, _, _, rfl, rfl, rfl, rfl⟩
  have hlists : ListsApart twoFiles a.bytecode.text.length := hlength ▸ listsApart_twoFiles
  have hfirst : ∀ other < "a.sol", positionsOf? twoFiles other "Lib" = none := by
    intro other hlt
    by_contra hsome
    obtain ⟨positions, hpositions⟩ := Option.ne_none_iff_exists'.mp hsome
    rcases positionsOf?_twoFiles hpositions with ⟨rfl, -⟩ | ⟨rfl, -⟩ | ⟨rfl, -⟩
    · exact lt_irrefl _ hlt
    · exact absurd hlt (by decide)
    · exact absurd hlt (by decide)
  obtain ⟨count, linked', hlink', hall⟩ :=
    link_listed hread hlists hfirst "App" [] none address
  obtain ⟨-, rfl⟩ := Prod.mk.inj (hlink.symm.trans hlink')
  obtain ⟨-, hbytes⟩ := hall 0 0 rfl [mathBinding] (by decide)
  exact ⟨a, hread, hlists, linked, hlink, code, hcode, hbytes code hcode⟩

/-- What a document lists for a library under any other source file is passed over: digits that
stand there before the library is linked stand there afterwards. -/
theorem link_passes_over (hread : ofJson name document = .ok a)
    (hlists : ListsApart document a.bytecode.text.length)
    (hentry : positionsOf? document file library = some positions)
    (hfirst : ∀ other < file, positionsOf? document other library = none) {later : String}
    (hlater : later ≠ file) {i : ℕ} {start : UInt64}
    (hstart : offsetAt? document ⟨later, library, i⟩ = some start) {digits : List Char}
    (hdigits : IsDigits digits) (hlength : digits.length = placeholderLength)
    (hbegins : digits <+: a.bytecode.text.drop (2 * start.toNat)) (unit : String)
    (source : Option String) (address : Address) :
    digits <+: (a.bytecode.link unit library source address).2.text.drop (2 * start.toNat) := by
  obtain ⟨htemplate, htext⟩ := ofJson_eq_ok hread
  have hrange := inRange_of_listsApart htemplate hlists library
  obtain ⟨count, text, hlink, -, hkeeps⟩ :=
    Template.link_eq_ok htext hrange unit source address
  have hfar : ∀ offset ∈ a.bytecode.offsetsOf library, FarApart start offset := by
    intro offset hoffset
    obtain ⟨j, hj⟩ := List.mem_iff_getElem?.mp hoffset
    rw [getElem?_offsetsOf htemplate hentry hfirst] at hj
    exact hlists.farApart _ _ _ _ (fun h => hlater (Listing.mk.inj h).1) hstart hj
  rw [hlink]
  exact hkeeps.prefix_drop _ _ (Template.isApart_of_isDigits hdigits hlength hfar) hbegins

set_option maxRecDepth 4000 in
/-- A second file that lists the library is enough: linking reports one place and no failure, and
the code that is taken has zeros where the second place is. -/
theorem not_linked_of_twoFiles :
    offsetAt? twoFiles ⟨"b.sol", "Lib", 0⟩ = some 20 ∧ ListsApart twoFiles 120 ∧
    ∃ a linked, ofJson "App" twoFiles = .ok a ∧ a.bytecode.text.length = 120 ∧
      a.bytecode.link "App" "Lib" none (Address.repeating 7) = (.ok 1, linked) ∧
      ¬ (Address.repeating 7).hex <+: linked.text.drop (2 * 20) ∧
      linked.toBytes "App" =
        .ok ((Address.repeating 7).bytes ++ List.replicate 40 0) := by
  have hplace : offsetAt? twoFiles ⟨"b.sol", "Lib", 0⟩ = some 20 := rfl
  refine ⟨hplace, listsApart_twoFiles, _, _, rfl, rfl, rfl, ?_, rfl⟩
  decide

end Rollout.Artifact
