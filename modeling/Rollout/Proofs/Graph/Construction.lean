import Rollout.Graph.Guarded
import Rollout.Proofs.Graph.Faults

/-!
# Building a graph

Building the graph of a manifest with an index of its names, and with every access checked, ends
like building it by searches, so no access fails. The lists of the graph mirror each other, and they
give the requirements of each unit in the order of declaration.
-/

namespace Rollout

/-- The positions of further names are added to those that an index has, unless one of the names has
a position already. -/
theorem Graph.Guarded.foldlM_note (names seen : List String) (index : Index) (k : ℕ)
    (hseen : ∀ name, name ∈ seen ↔ (index name).isSome) :
    match firstRepeated seen names with
    | some name => (names.zipIdx k).foldlM note index = .error (.duplicateUnit name)
    | none => (names.zipIdx k).foldlM note index = .ok fun name =>
        (index name).or ((names.findIdx? (· == name)).map (· + k)) := by
  induction names generalizing seen index k with
  | nil => simp [firstRepeated, Pure.pure, Except.pure]
  | cons name names ih =>
    rw [List.zipIdx_cons, List.foldlM_cons]
    by_cases hold : name ∈ seen
    · have hnote : note index (name, k) = .error (.duplicateUnit name) := by
        simp [note, (hseen name).mp hold]
      simp only [firstRepeated, if_pos hold, hnote]
      rfl
    · have hnone : index name = none := by
        rwa [hseen, Bool.not_eq_true, Option.isSome_eq_false_iff, Option.isNone_iff_eq_none] at hold
      have hnote : note index (name, k) =
          .ok fun other => if other = name then some k else index other := by
        simp [note, hnone]
      have hrest := ih (name :: seen) (fun other => if other = name then some k else index other)
        (k + 1) fun other => by
          by_cases hname : other = name
          · simp [hname]
          · simp [hname, hseen]
      simp only [firstRepeated, if_neg hold, hnote]
      cases hrepeated : firstRepeated (name :: seen) names with
      | some repeated =>
        rw [hrepeated] at hrest
        exact hrest
      | none =>
        rw [hrepeated] at hrest
        refine hrest.trans (congrArg Except.ok (funext fun other => ?_))
        by_cases hname : other = name
        · subst other
          simp [hnone, List.findIdx?_cons]
        · have hne : (name == other) = false := by simpa using Ne.symm hname
          simp only [if_neg hname, List.findIdx?_cons, hne, Bool.false_eq_true, if_false,
            Option.map_map]
          congr 2
          funext i
          simp only [Function.comp_apply]
          omega

namespace Graph

variable {g : Graph} {m : Manifest}

/-- The index has the position of every name, and a repeated name is refused. -/
theorem Guarded.indexOf_eq (m : Manifest) : indexOf m.names =
    match firstRepeated [] m.names with
    | some name => .error (.duplicateUnit name)
    | none => .ok m.position? := by
  have hfold := foldlM_note m.names [] (fun _ => none) 0 (by simp)
  have hposition : (fun name => m.names.findIdx? (· == name)) = m.position? := by
    funext name
    rw [Manifest.names, List.findIdx?_map]
    rfl
  unfold indexOf
  cases hrepeated : firstRepeated [] m.names with
  | some name =>
    rw [hrepeated] at hfold
    exact hfold
  | none =>
    rw [hrepeated] at hfold
    simpa [hposition] using hfold

/-- A position is entered at a place that is there. -/
theorem Guarded.enterAt_eq {lists : List (List ℕ)} {place : ℕ} (hplace : place < lists.length)
    (position : ℕ) :
    enterAt lists place position = .ok (lists.modify place (insertPosition position)) := by
  simp [enterAt, itemAt, List.getElem?_eq_getElem hplace, Except.map,
    List.modify_eq_set_getElem?]

/-- An edge of the manifest is entered, or refused, as without an index. -/
theorem Records.guarded_addEdge {edges : List Edge} {e : Edge} (hrecords : g.Records m edges)
    (hdependent : e.dependent ∈ m.names) :
    Guarded.addEdge m.position? g e = (g.addEdge e).mapError .refused := by
  obtain ⟨i, hi⟩ := Manifest.exists_position? hdependent
  obtain ⟨hilt, hieq⟩ := List.findIdx?_eq_some_iff_findIdx_eq.mp hi
  unfold Guarded.addEdge Graph.addEdge
  rw [hrecords.manifest_eq, hi, hieq]
  cases hj : m.position? e.dependency with
  | none => rfl
  | some j =>
    obtain ⟨hjlt, -⟩ := List.findIdx?_eq_some_iff_findIdx_eq.mp hj
    rw [← hrecords.length_prerequisites] at hilt
    rw [← hrecords.length_dependents] at hjlt
    have hconnect : Guarded.connect g j i = .ok (g.connect j i) := by
      simp only [Guarded.connect, Guarded.enterAt_eq hilt, Guarded.enterAt_eq hjlt]
      rfl
    simp only [hconnect]
    rfl

/-- Edges of the manifest are entered, up to the first that is refused, as without an index. -/
theorem Records.guarded_foldlM_addEdge {done edges : List Edge} (hrecords : g.Records m done)
    (hdependent : ∀ e ∈ edges, e.dependent ∈ m.names) :
    edges.foldlM (Guarded.addEdge m.position?) g =
      (edges.foldlM Graph.addEdge g).mapError .refused := by
  induction edges generalizing g done with
  | nil => rfl
  | cons e edges ih =>
    rw [List.forall_mem_cons] at hdependent
    rw [List.foldlM_cons, List.foldlM_cons, hrecords.guarded_addEdge hdependent.1]
    cases hfirst : g.addEdge e with
    | error error => rfl
    | ok next => exact ih (hrecords.addEdge hdependent.1 hfirst) hdependent.2

/-- The graph of a manifest is built, or refused, as without an index, and no check fails. -/
theorem Guarded.ofManifest_eq (m : Manifest) :
    Guarded.ofManifest m = (Graph.ofManifest m).mapError .refused := by
  unfold Guarded.ofManifest Graph.ofManifest
  rw [indexOf_eq]
  cases firstRepeated [] m.names with
  | some name => rfl
  | none =>
    exact (records_withoutEdges m).guarded_foldlM_addEdge fun e he =>
      Manifest.dependent_mem_names he

/-- The names at ascending positions stand in the order of declaration. -/
theorem sublist_namesAt {positions : List ℕ} (hascending : positions.Pairwise (· < ·))
    (hlt : ∀ i ∈ positions, i < g.size) : (g.namesAt positions).Sublist g.manifest.names := by
  have hsubset : positions ⊆ List.range g.size := fun i hi => List.mem_range.mpr (hlt i hi)
  have hsublist : positions.Sublist (List.range g.size) :=
    List.sublist_of_subperm_of_pairwise (List.subperm_of_subset hascending.nodup hsubset)
      hascending List.pairwise_lt_range
  rw [← namesAt_range]
  exact hsublist.filterMap _

/-- The names at the positions that a unit depends on are the names that it requires. -/
theorem mem_dependenciesOf (hg : g.Represents m) (name dependency : String) :
    dependency ∈ g.dependenciesOf name ↔ m.Requires name dependency := by
  unfold dependenciesOf
  rw [hg.manifest_eq]
  cases hi : m.position? name with
  | none =>
    have hundeclared := Manifest.position?_eq_none.mp hi
    simp only [List.not_mem_nil, false_iff]
    rintro ⟨d, hd, rfl, -⟩
    exact hundeclared (List.mem_map_of_mem hd)
  | some i =>
    simp only [namesAt, List.mem_filterMap, Option.map_eq_some_iff, hg.manifest_eq]
    constructor
    · rintro ⟨j, hj, e, he, rfl⟩
      obtain ⟨d, e', hd, he', hdependency⟩ := (hg.mem_prerequisitesOf i j).mp hj
      obtain rfl : e = e' := Option.some.inj (he.symm.trans he')
      obtain ⟨d', hd', hname⟩ := (Manifest.position?_eq_some hg.nodup_names).mp hi
      obtain rfl : d = d' := Option.some.inj (hd.symm.trans hd')
      exact ⟨d, List.mem_of_getElem? hd, hname, hdependency⟩
    · intro hrequires
      obtain ⟨j, hj, hprerequisite⟩ := hg.exists_position?_of_requires hrequires hi
      obtain ⟨e, he, hename⟩ := (Manifest.position?_eq_some hg.nodup_names).mp hj
      exact ⟨j, hprerequisite, e, he, hename⟩

/-- The names that a unit requires are given in the order of declaration. -/
theorem sublist_dependenciesOf (hg : g.Represents m) (name : String) :
    (g.dependenciesOf name).Sublist m.names := by
  unfold dependenciesOf
  split
  · rename_i i hi
    rw [← hg.manifest_eq]
    refine sublist_namesAt (hg.ascending_prerequisitesOf i) fun j hj => ?_
    obtain ⟨d, e, -, he, -⟩ := (hg.mem_prerequisitesOf i j).mp hj
    rw [size, hg.manifest_eq]
    exact (List.getElem?_eq_some_iff.mp he).1
  · exact List.nil_sublist _

/-- The lists of the graph mirror each other. They hold the requirements of the manifest by position
and give them by name. -/
structure Mirrors (g : Graph) (m : Manifest) : Prop where
  length_prerequisites : g.prerequisites.length = m.units.length
  length_dependents : g.dependents.length = m.units.length
  mem_dependentsOf : ∀ i j, i ∈ g.dependentsOf j ↔ j ∈ g.prerequisitesOf i
  mem_prerequisitesOf : ∀ i j, j ∈ g.prerequisitesOf i ↔ m.RequiresAt i j
  ascending_prerequisitesOf : ∀ i, (g.prerequisitesOf i).Pairwise (· < ·)
  ascending_dependentsOf : ∀ j, (g.dependentsOf j).Pairwise (· < ·)
  mem_dependenciesOf : ∀ name dependency,
    dependency ∈ g.dependenciesOf name ↔ m.Requires name dependency
  /-- The names stand in the order of declaration. -/
  sublist_dependenciesOf : ∀ name, (g.dependenciesOf name).Sublist m.names
  nodup_dependenciesOf : ∀ name, (g.dependenciesOf name).Nodup

/-- The graph of a manifest mirrors it. -/
theorem mirrors_of_ofManifest (hok : ofManifest m = .ok g) : g.Mirrors m := by
  obtain ⟨hnodup, hedges⟩ := ofManifest_eq_ok.mp hok
  have hrecords := (records_withoutEdges m).foldlM_addEdge
    (fun e he => Manifest.dependent_mem_names he) hedges
  have hg := represents_of_ofManifest hok
  exact {
    length_prerequisites := hg.length_prerequisites
    length_dependents := hrecords.length_dependents
    mem_dependentsOf := fun i j => by rw [hg.mem_dependentsOf, hg.mem_prerequisitesOf]
    mem_prerequisitesOf := hg.mem_prerequisitesOf
    ascending_prerequisitesOf := hg.ascending_prerequisitesOf
    ascending_dependentsOf := hg.ascending_dependentsOf
    mem_dependenciesOf := mem_dependenciesOf hg
    sublist_dependenciesOf := sublist_dependenciesOf hg
    nodup_dependenciesOf := fun name => (sublist_dependenciesOf hg name).nodup hnodup }

/-- A manifest has a graph exactly when its names are distinct and whatever a unit links or names in
an argument is declared. Otherwise the first repeated name is refused, and when no name is repeated
the first edge whose dependency is not declared. Building the graph with an index ends in the same
way, so no check fails. The graph holds exactly the requirements of the manifest, in both directions
and by name, each of them once and in the order of declaration. -/
theorem ofManifest_outcome (m : Manifest) :
    Guarded.ofManifest m = (ofManifest m).mapError Stop.refused ∧
    ((∃ g, ofManifest m = .ok g) ↔
      m.names.Nodup ∧ ∀ name dependency, m.Requires name dependency → dependency ∈ m.names) ∧
    (∀ e, ofManifest m = .error e ↔
      (∃ name, m.FirstRepeats name ∧ e = .duplicateUnit name) ∨
        m.names.Nodup ∧ ∃ edge, m.FirstUndeclared edge ∧
          e = .unknownDependency edge.dependent edge.dependency) ∧
    ∀ g, ofManifest m = .ok g → g.Mirrors m := by
  refine ⟨Guarded.ofManifest_eq m, exists_ofManifest_iff, fun e => ofManifest_eq_error, ?_⟩
  intro g hok
  exact mirrors_of_ofManifest hok

end Graph

end Rollout
