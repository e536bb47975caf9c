import Rollout.Manifest.Basic
import Rollout.Proofs.Json.RoundTrip
import Rollout.Proofs.Uint256

/-!
# Manifests read back

A manifest is written as a document in which empty fields are left out. Whatever its units are
called and whatever their arguments are, reading the text gives the same manifest, because a field
that is left out is read as an empty one.
-/

namespace Rollout

/-- The keys of an object. -/
def Json.keys (j : Json) : List String :=
  (j.members?.getD []).map (·.1)

namespace Json

/-- An array whose items are all legible in the same way is legible where no byte string is
expected. -/
theorem Legible.array_of_forall_mem {shape item : Shape} {items : List Json}
    (hbytes : ∀ n, shape ≠ .bytes n) (hitem : ∀ i, shape.item i = item)
    (hitems : ∀ j ∈ items, Legible item j) : Legible shape (.array items) := by
  refine Legible.array (fun n hn => absurd hn (hbytes n)) fun i j hj => ?_
  rw [hitem]
  exact hitems j (List.mem_of_getElem? hj)

/-- Items that are read back one by one are read back as a list. -/
theorem list?_array_map {α : Type} {read : Json → Option α} {write : α → Json}
    (hread : ∀ a, read (write a) = some a) (as : List α) :
    list? read (.array (as.map write)) = some as := by
  have hsame : read ∘ write = fun a => some (id a) := funext hread
  rw [list?, items?, Option.bind_some, List.mapM_map, hsame]
  exact (List.mapM_pure (m := Option)).trans (congrArg some (List.map_id as))

/-- A field whose key is not there is missing. -/
theorem field?_of_notMem_keys {members : List (String × Json)} {key : String}
    (hkey : key ∉ (object members).keys) : field? members key = some none := by
  have hnone : valuesOf members key = [] := by
    rw [valuesOf, List.map_eq_nil_iff, List.filter_eq_nil_iff]
    intro member hmember hsame
    exact hkey (List.mem_map.mpr ⟨member, hmember, beq_iff_eq.mp hsame⟩)
  rw [field?, hnone]

end Json

namespace Argument

/-- A reader of arguments can read the text of an argument. -/
theorem legible_toJson (a : Argument) : a.toJson.Legible shape := by
  cases a with
  | deployer => exact Json.Legible.string _
  | unit name => exact Json.Legible.object (by simpa using Json.Legible.string name)
  | address v => exact Json.Legible.object (by simpa using Json.Legible.string v.text)
  | uint v => exact Json.Legible.object (by simpa using Json.Legible.string v.hex)
  | string s => exact Json.Legible.object (by simpa using Json.Legible.string s)
  | bool b => exact Json.Legible.object (by simpa using Json.Legible.bool b)

/-- A written argument is read back. -/
theorem ofJson?_toJson (a : Argument) : ofJson? a.toJson = some a := by
  cases a with
  | address v => simp [ofJson?, toJson, FixedBytes.ofJson?, FixedBytes.parse?_text]
  | uint v => simp [ofJson?, toJson, Uint256.ofJson?, Uint256.parse?_hex]
  | deployer | unit | string | bool => rfl

end Argument

namespace Declaration

/-- A reader of declarations can read the text of a declaration. -/
theorem legible_toJson (d : Declaration) : d.toJson.Legible shape := by
  have hlinks : Json.Legible .any (.array (d.links.map .string)) := by
    refine Json.Legible.array_of_forall_mem (fun _ => nofun) (fun _ => rfl) fun j hj => ?_
    obtain ⟨link, -, rfl⟩ := List.mem_map.mp hj
    exact Json.Legible.string link
  have hargs : Json.Legible (.list Argument.shape) (.array (d.args.map Argument.toJson)) := by
    refine Json.Legible.array_of_forall_mem (fun _ => nofun) (fun _ => rfl) fun j hj => ?_
    obtain ⟨a, -, rfl⟩ := List.mem_map.mp hj
    exact a.legible_toJson
  refine Json.Legible.object fun member hmember => ?_
  simp only [List.mem_append, List.mem_singleton, Option.mem_toList,
    Option.map_eq_some_iff] at hmember
  rcases hmember with ((rfl | ⟨artifact, -, rfl⟩) | hmember) | hmember
  · exact Json.Legible.string d.name
  · exact Json.Legible.string artifact
  · split at hmember
    · cases hmember
    · obtain rfl := List.mem_singleton.mp hmember
      exact hlinks
  · split at hmember
    · cases hmember
    · obtain rfl := List.mem_singleton.mp hmember
      exact hargs

/-- The fields of a written declaration: an empty one is missing. -/
theorem record?_toJson (d : Declaration) :
    d.toJson.record? ["name", "artifact", "links", "args"] =
      some [some (.string d.name), d.artifact.map .string,
        if d.links = [] then none else some (.array (d.links.map .string)),
        if d.args = [] then none else some (.array (d.args.map Argument.toJson))] := by
  obtain ⟨name, artifact, links, args⟩ := d
  cases artifact <;> by_cases hlinks : links = [] <;> by_cases hargs : args = [] <;>
    simp [toJson, Json.record?, Json.field?, Json.valuesOf, hlinks, hargs]

/-- A written declaration is read back. -/
theorem ofJson?_toJson (d : Declaration) : ofJson? d.toJson = some d := by
  have hartifact : Json.orNull Json.string? (d.artifact.map .string) = some d.artifact := by
    cases d.artifact <;> rfl
  have hstring (link : String) : Json.string? (.string link) = some link := rfl
  have hlinks : Json.orMissing [] (Json.list? Json.string?)
      (if d.links = [] then none else some (.array (d.links.map .string))) = some d.links := by
    split
    · rename_i hnil
      rw [hnil]
      rfl
    · exact Json.list?_array_map hstring d.links
  have hargs : Json.orMissing [] (Json.list? Argument.ofJson?)
      (if d.args = [] then none else some (.array (d.args.map Argument.toJson))) =
        some d.args := by
    split
    · rename_i hnil
      rw [hnil]
      rfl
    · exact Json.list?_array_map Argument.ofJson?_toJson d.args
  simp only [ofJson?, record?_toJson, Json.string?, hartifact, hlinks, hargs]
  rfl

/-- Only the fields that are not empty are written. -/
theorem mem_keys_toJson (d : Declaration) :
    ("artifact" ∈ d.toJson.keys ↔ d.artifact ≠ none) ∧
    ("links" ∈ d.toJson.keys ↔ d.links ≠ []) ∧
    ("args" ∈ d.toJson.keys ↔ d.args ≠ []) := by
  obtain ⟨name, artifact, links, args⟩ := d
  cases artifact <;> by_cases hlinks : links = [] <;> by_cases hargs : args = [] <;>
    simp [toJson, Json.keys, Json.members?, hlinks, hargs]

/-- The fields of a declaration that is read from an object are read from its members. -/
theorem fields_of_ofJson? {members : List (String × Json)} {d : Declaration}
    (hread : ofJson? (.object members) = some d) : ∃ artifact links args,
      Json.field? members "artifact" = some artifact ∧
      Json.field? members "links" = some links ∧ Json.field? members "args" = some args ∧
      Json.orNull Json.string? artifact = some d.artifact ∧
      Json.orMissing [] (Json.list? Json.string?) links = some d.links ∧
      Json.orMissing [] (Json.list? Argument.ofJson?) args = some d.args := by
  unfold ofJson? at hread
  split at hread
  · rename_i name artifact links args hfields
    simp only [Json.record?, List.mapM_cons, List.mapM_nil, Option.bind_eq_bind, Option.pure_def,
      Option.bind_eq_some_iff, Option.some.injEq] at hfields hread
    obtain ⟨_, -, _, ⟨_, hartifact, _, ⟨_, hlinks, _, ⟨_, hargs, _, rfl, rfl⟩, rfl⟩, rfl⟩, hcons⟩ :=
      hfields
    obtain ⟨-, rfl, rfl, rfl⟩ : _ ∧ _ = artifact ∧ _ = links ∧ _ = args := by simpa using hcons
    obtain ⟨_, -, _, hartifact', _, hlinks', _, hargs', rfl⟩ := hread
    exact ⟨_, _, _, hartifact, hlinks, hargs, hartifact', hlinks', hargs'⟩
  · cases hread

/-- A field of an object that is left out is read as an empty one. -/
theorem empty_of_notMem_keys {members : List (String × Json)} {d : Declaration}
    (hread : ofJson? (.object members) = some d) :
    ("artifact" ∉ (Json.object members).keys → d.artifact = none) ∧
    ("links" ∉ (Json.object members).keys → d.links = []) ∧
    ("args" ∉ (Json.object members).keys → d.args = []) := by
  obtain ⟨artifact, links, args, hartifact, hlinks, hargs, hartifact', hlinks', hargs'⟩ :=
    fields_of_ofJson? hread
  refine ⟨fun hkey => ?_, fun hkey => ?_, fun hkey => ?_⟩
  · obtain rfl := Option.some.inj (hartifact.symm.trans (Json.field?_of_notMem_keys hkey))
    exact (Option.some.inj hartifact').symm
  · obtain rfl := Option.some.inj (hlinks.symm.trans (Json.field?_of_notMem_keys hkey))
    exact (Option.some.inj hlinks').symm
  · obtain rfl := Option.some.inj (hargs.symm.trans (Json.field?_of_notMem_keys hkey))
    exact (Option.some.inj hargs').symm

end Declaration

namespace Manifest

/-- A reader of manifests can read the text of a manifest. -/
theorem legible_toJson (m : Manifest) : m.toJson.Legible shape := by
  have hunits : Json.Legible (.list Declaration.shape)
      (.array (m.units.map Declaration.toJson)) := by
    refine Json.Legible.array_of_forall_mem (fun _ => nofun) (fun _ => rfl) fun j hj => ?_
    obtain ⟨d, -, rfl⟩ := List.mem_map.mp hj
    exact d.legible_toJson
  refine Json.Legible.object fun member hmember => ?_
  obtain rfl := List.mem_singleton.mp hmember
  exact hunits

/-- A written manifest is read back. -/
theorem ofJson?_toJson (m : Manifest) : ofJson? m.toJson = some m := by
  have hrecord : m.toJson.record? ["units"] =
      some [some (.array (m.units.map Declaration.toJson))] := rfl
  simp only [ofJson?, hrecord, Json.list?_array_map Declaration.ofJson?_toJson, Option.map_some]

/-- A text from which the document of a manifest is read is a text of the manifest. -/
theorem parse?_eq_some {m : Manifest} {text : String}
    (htext : Json.parseAs? shape text = some m.toJson) : parse? text = some m := by
  rw [parse?, htext, Option.bind_some, ofJson?_toJson]

/-- Every manifest is read back from its text, on one line or spread over lines. The text holds only
the fields that are not empty, and whatever object is read, a field that is left out is read as an
empty one. Different manifests have different texts. -/
theorem parse?_written :
    (∀ m : Manifest, parse? m.toJson.compact = some m ∧ parse? m.toJson.pretty = some m) ∧
    (∀ d : Declaration,
      ("artifact" ∈ d.toJson.keys ↔ d.artifact ≠ none) ∧
      ("links" ∈ d.toJson.keys ↔ d.links ≠ []) ∧
      ("args" ∈ d.toJson.keys ↔ d.args ≠ [])) ∧
    (∀ members d, Declaration.ofJson? (.object members) = some d →
      ("artifact" ∉ (Json.object members).keys → d.artifact = none) ∧
      ("links" ∉ (Json.object members).keys → d.links = []) ∧
      ("args" ∉ (Json.object members).keys → d.args = [])) ∧
    Function.Injective (fun m : Manifest => m.toJson.compact) ∧
    Function.Injective fun m : Manifest => m.toJson.pretty := by
  have hcompact (m : Manifest) : parse? m.toJson.compact = some m :=
    parse?_eq_some (Json.parseAs?_compact m.legible_toJson)
  have hpretty (m : Manifest) : parse? m.toJson.pretty = some m :=
    parse?_eq_some (Json.parseAs?_pretty m.legible_toJson)
  refine ⟨fun m => ⟨hcompact m, hpretty m⟩, Declaration.mem_keys_toJson,
    fun members d => Declaration.empty_of_notMem_keys, fun m m' hsame => ?_, fun m m' hsame => ?_⟩
  · have hread := congrArg parse? hsame
    exact Option.some.inj ((hcompact m).symm.trans (hread.trans (hcompact m')))
  · have hread := congrArg parse? hsame
    exact Option.some.inj ((hpretty m).symm.trans (hread.trans (hpretty m')))

end Manifest

end Rollout
