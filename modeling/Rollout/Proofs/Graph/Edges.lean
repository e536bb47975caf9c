import Rollout.Graph.Basic
import Rollout.Proofs.Outcome
import Mathlib.Data.List.Nodup

/-!
# What a graph records

A unit requires the units that it links and those that its constructor arguments name. A manifest
has a graph exactly when its names are distinct and everything that is required is declared. The
graph then records the relation by position, in both directions and without repetition.
-/

namespace Rollout

namespace Manifest

/-- The unit `name` links `dependency` or names it in a constructor argument. -/
def Requires (m : Manifest) (name dependency : String) : Prop :=
  ∃ d ∈ m.units, d.name = name ∧ dependency ∈ d.dependencies

/-- The unit at position `i` requires the unit at position `j`. -/
def RequiresAt (m : Manifest) (i j : ℕ) : Prop :=
  ∃ d e, m.units[i]? = some d ∧ m.units[j]? = some e ∧ e.name ∈ d.dependencies

/-- One of the edges leads from the unit at position `i` to its requirement at position `j`. -/
def Joined (m : Manifest) (edges : List Edge) (i j : ℕ) : Prop :=
  ∃ e ∈ edges, m.position? e.dependent = some i ∧ m.position? e.dependency = some j

/-- The edges of a unit lead to it from each of its dependencies. -/
theorem mem_edgesOf {d : Declaration} {e : Edge} (he : e ∈ edgesOf d) :
    e.dependent = d.name ∧ e.dependency ∈ d.dependencies := by
  simp only [edgesOf, List.mem_append, List.mem_map] at he
  simp only [Declaration.dependencies, List.mem_append]
  rcases he with ⟨library, hmem, rfl⟩ | ⟨unit, hmem, rfl⟩
  · exact ⟨rfl, Or.inl hmem⟩
  · exact ⟨rfl, Or.inr hmem⟩

/-- Every dependency of a unit has an edge to it, whatever its kind. -/
theorem exists_mem_edgesOf {d : Declaration} {dependency : String}
    (hmem : dependency ∈ d.dependencies) :
    ∃ e ∈ edgesOf d, e.dependent = d.name ∧ e.dependency = dependency := by
  simp only [Declaration.dependencies, List.mem_append] at hmem
  rcases hmem with hlink | hreference
  · exact ⟨⟨dependency, d.name, .link⟩, by simp [edgesOf, hlink], rfl, rfl⟩
  · exact ⟨⟨dependency, d.name, .constructorArgument⟩, by simp [edgesOf, hreference], rfl, rfl⟩

/-- The edges of a manifest spell the requirements of its units. -/
theorem exists_edge_iff_requires {m : Manifest} {name dependency : String} :
    (∃ e ∈ m.edges, e.dependent = name ∧ e.dependency = dependency) ↔
      m.Requires name dependency := by
  constructor
  · rintro ⟨e, he, rfl, rfl⟩
    obtain ⟨d, hd, hed⟩ := List.mem_flatMap.mp he
    obtain ⟨hname, hdependency⟩ := mem_edgesOf hed
    exact ⟨d, hd, hname.symm, hdependency⟩
  · rintro ⟨d, hd, rfl, hdependency⟩
    obtain ⟨e, he, hname, hfrom⟩ := exists_mem_edgesOf hdependency
    exact ⟨e, List.mem_flatMap.mpr ⟨d, hd, he⟩, hname, hfrom⟩

/-- The dependent end of an edge is declared. -/
theorem dependent_mem_names {m : Manifest} {e : Edge} (he : e ∈ m.edges) :
    e.dependent ∈ m.names := by
  obtain ⟨d, hd, hname, -⟩ := exists_edge_iff_requires.mp ⟨e, he, rfl, rfl⟩
  exact List.mem_map.mpr ⟨d, hd, hname⟩

/-- A name without a position is not declared. -/
theorem position?_eq_none {m : Manifest} {name : String} :
    m.position? name = none ↔ name ∉ m.names := by
  simp [position?, names, List.findIdx?_eq_none_iff]

/-- A name with a position is declared. -/
theorem mem_names_of_position? {m : Manifest} {name : String} {i : ℕ}
    (hi : m.position? name = some i) : name ∈ m.names := by
  by_contra hname
  rw [position?_eq_none.mpr hname] at hi
  cases hi

/-- A declared name has a position. -/
theorem exists_position? {m : Manifest} {name : String} (hname : name ∈ m.names) :
    ∃ i, m.position? name = some i := by
  rw [← Option.ne_none_iff_exists', Ne, position?_eq_none, not_not]
  exact hname

/-- Among distinct names, a name belongs to one position only. -/
theorem eq_of_name_eq {m : Manifest} (hnodup : m.names.Nodup) {i j : ℕ} {d e : Declaration}
    (hi : m.units[i]? = some d) (hj : m.units[j]? = some e) (hname : d.name = e.name) :
    i = j := by
  obtain ⟨hi, rfl⟩ := List.getElem?_eq_some_iff.mp hi
  obtain ⟨hj, rfl⟩ := List.getElem?_eq_some_iff.mp hj
  have hlength : m.names.length = m.units.length := List.length_map _
  have hnames : m.names[i] = m.names[j] := by simpa only [names, List.getElem_map] using hname
  exact hnodup.getElem_inj_iff.mp hnames

/-- Among distinct names, a unit is known by its name. -/
theorem eq_of_mem_of_name_eq {m : Manifest} (hnodup : m.names.Nodup) {d e : Declaration}
    (hd : d ∈ m.units) (he : e ∈ m.units) (hname : d.name = e.name) : d = e :=
  List.inj_on_of_nodup_map hnodup hd he hname

/-- Requirements by position are requirements between the names at these positions. -/
theorem requiresAt_iff {m : Manifest} (hnodup : m.names.Nodup) {i j : ℕ} :
    m.RequiresAt i j ↔
      ∃ name dependency, m.names[i]? = some name ∧ m.names[j]? = some dependency ∧
        m.Requires name dependency := by
  simp only [names, List.getElem?_map, Option.map_eq_some_iff]
  constructor
  · rintro ⟨d, e, hd, he, hdependency⟩
    exact ⟨d.name, e.name, ⟨d, hd, rfl⟩, ⟨e, he, rfl⟩, d, List.mem_of_getElem? hd, rfl,
      hdependency⟩
  · rintro ⟨_, _, ⟨d, hd, rfl⟩, ⟨e, he, rfl⟩, d', hd', hname, hdependency⟩
    obtain rfl := eq_of_mem_of_name_eq hnodup hd' (List.mem_of_getElem? hd) hname
    exact ⟨d', e, hd, he, hdependency⟩

/-- Among distinct names, a unit stands at the position of its name. -/
theorem position?_eq_some {m : Manifest} (hnodup : m.names.Nodup) {name : String} {i : ℕ} :
    m.position? name = some i ↔ ∃ d, m.units[i]? = some d ∧ d.name = name := by
  simp only [position?, List.findIdx?_eq_some_iff_getElem, beq_iff_eq]
  constructor
  · rintro ⟨hi, hname, -⟩
    exact ⟨m.units[i], List.getElem?_eq_getElem hi, hname⟩
  · rintro ⟨d, hd, hname⟩
    obtain ⟨hi, rfl⟩ := List.getElem?_eq_some_iff.mp hd
    refine ⟨hi, hname, fun j hj hjname => ?_⟩
    have hij := eq_of_name_eq hnodup (List.getElem?_eq_getElem (Nat.lt_trans hj hi)) hd
      (hjname.trans hname.symm)
    omega

end Manifest

/-- The first repeated name is missing exactly when no name is repeated. -/
theorem firstRepeated_eq_none {seen names : List String} :
    firstRepeated seen names = none ↔ names.Nodup ∧ ∀ name ∈ names, name ∉ seen := by
  induction names generalizing seen with
  | nil => simp [firstRepeated]
  | cons name names ih =>
    by_cases hseen : name ∈ seen
    · simp [firstRepeated, hseen]
    · simp only [firstRepeated, if_neg hseen, ih, List.nodup_cons, List.mem_cons, not_or,
        forall_eq_or_imp]
      constructor
      · rintro ⟨hnodup, hnew⟩
        exact ⟨⟨fun hmem => (hnew name hmem).1 rfl, hnodup⟩, hseen, fun n hn => (hnew n hn).2⟩
      · rintro ⟨⟨hmem, hnodup⟩, -, hnew⟩
        exact ⟨hnodup, fun n hn => ⟨fun heq => hmem (heq ▸ hn), hnew n hn⟩⟩

/-- An inserted position joins those of the list. -/
theorem mem_insertPosition {i k : ℕ} {positions : List ℕ} :
    k ∈ insertPosition i positions ↔ k = i ∨ k ∈ positions := by
  induction positions with
  | nil => simp [insertPosition]
  | cons j js ih =>
    unfold insertPosition
    split
    · simp
    · split
      · rename_i heq
        simp [heq]
      · simp only [List.mem_cons, ih]
        tauto

/-- Inserting a position keeps the list ascending. -/
theorem pairwise_insertPosition {i : ℕ} {positions : List ℕ}
    (hascending : positions.Pairwise (· < ·)) : (insertPosition i positions).Pairwise (· < ·) := by
  induction positions with
  | nil => simp [insertPosition]
  | cons j js ih =>
    obtain ⟨hj, hjs⟩ := List.pairwise_cons.mp hascending
    unfold insertPosition
    split
    · rename_i hlt
      refine List.pairwise_cons.mpr ⟨fun k hk => ?_, hascending⟩
      rcases List.mem_cons.mp hk with rfl | hk
      · exact hlt
      · exact Nat.lt_trans hlt (hj k hk)
    · split
      · exact hascending
      · refine List.pairwise_cons.mpr ⟨fun k hk => ?_, ih hjs⟩
        rcases mem_insertPosition.mp hk with rfl | hk
        · omega
        · exact hj k hk

/-- Entering a position in one of several lists changes that list only. -/
theorem getD_modify_insertPosition {lists : List (List ℕ)} {place : ℕ}
    (hplace : place < lists.length) (i k : ℕ) :
    (lists.modify place (insertPosition i)).getD k [] =
      if k = place then insertPosition i (lists.getD k []) else lists.getD k [] := by
  by_cases hk : k = place
  · subst k
    simp [List.getD_eq_getElem?_getD, List.getElem?_eq_getElem hplace]
  · simp [List.getD_eq_getElem?_getD, hk, Ne.symm hk]

namespace Graph

/-- The lists of the graph hold the pairs of positions that these edges join, and no others. -/
structure Records (g : Graph) (m : Manifest) (edges : List Edge) : Prop where
  manifest_eq : g.manifest = m
  /-- Only declared units are required. -/
  declared : ∀ e ∈ edges, e.dependency ∈ m.names
  /-- Every unit has a list of the positions that it depends on. -/
  length_prerequisites : g.prerequisites.length = m.units.length
  /-- Every unit has a list of the positions that depend on it. -/
  length_dependents : g.dependents.length = m.units.length
  mem_prerequisitesOf : ∀ i j, j ∈ g.prerequisitesOf i ↔ m.Joined edges i j
  mem_dependentsOf : ∀ i j, i ∈ g.dependentsOf j ↔ m.Joined edges i j
  ascending_prerequisitesOf : ∀ i, (g.prerequisitesOf i).Pairwise (· < ·)
  ascending_dependentsOf : ∀ j, (g.dependentsOf j).Pairwise (· < ·)

/-- The graph without edges records no edge. -/
theorem records_withoutEdges (m : Manifest) : (withoutEdges m).Records m [] := by
  have hnone (i : ℕ) : (m.units.map fun _ => ([] : List ℕ)).getD i [] = [] := by
    rw [List.getD_eq_getElem?_getD, List.getElem?_map]
    cases m.units[i]? <;> rfl
  have hprerequisites (i : ℕ) : (withoutEdges m).prerequisitesOf i = [] := hnone i
  have hdependents (j : ℕ) : (withoutEdges m).dependentsOf j = [] := hnone j
  constructor
  · rfl
  · simp
  · simp [withoutEdges]
  · simp [withoutEdges]
  · simp [hprerequisites, Manifest.Joined]
  · simp [hdependents, Manifest.Joined]
  · simp [hprerequisites]
  · simp [hdependents]

/-- An edge is entered when its dependency has a position. -/
theorem addEdge_eq_ok {g g' : Graph} {e : Edge} :
    g.addEdge e = .ok g' ↔ ∃ j, g.manifest.position? e.dependency = some j ∧
      g' = g.connect j (g.manifest.units.findIdx (·.name == e.dependent)) := by
  unfold addEdge
  cases g.manifest.position? e.dependency with
  | none => simp
  | some j => simp [eq_comm]

/-- One more edge joins one more pair of positions. -/
theorem joined_concat {m : Manifest} {edges : List Edge} {e : Edge} {i j : ℕ}
    (hi : m.position? e.dependent = some i) (hj : m.position? e.dependency = some j) (i' j' : ℕ) :
    m.Joined (edges ++ [e]) i' j' ↔ m.Joined edges i' j' ∨ (i' = i ∧ j' = j) := by
  simp only [Manifest.Joined, List.mem_append, List.mem_singleton, or_and_right, exists_or,
    exists_eq_left, hi, hj, Option.some.injEq, eq_comm (a := i), eq_comm (a := j)]

/-- A new edge changes the dependencies of its dependent only. -/
theorem prerequisitesOf_connect {g : Graph} {i : ℕ} (hi : i < g.prerequisites.length) (j k : ℕ) :
    (g.connect j i).prerequisitesOf k =
      if k = i then insertPosition j (g.prerequisitesOf k) else g.prerequisitesOf k :=
  getD_modify_insertPosition hi j k

/-- A new edge changes the dependents of its dependency only. -/
theorem dependentsOf_connect {g : Graph} {j : ℕ} (hj : j < g.dependents.length) (i k : ℕ) :
    (g.connect j i).dependentsOf k =
      if k = j then insertPosition i (g.dependentsOf k) else g.dependentsOf k :=
  getD_modify_insertPosition hj i k

/-- Entering an edge whose dependent is declared records that edge as well. -/
theorem Records.addEdge {g g' : Graph} {m : Manifest} {edges : List Edge} {e : Edge}
    (hrecords : g.Records m edges) (hdependent : e.dependent ∈ m.names)
    (hok : g.addEdge e = .ok g') : g'.Records m (edges ++ [e]) := by
  obtain ⟨j, hj, rfl⟩ := addEdge_eq_ok.mp hok
  rw [hrecords.manifest_eq] at hj ⊢
  obtain ⟨i, hi⟩ := Manifest.exists_position? hdependent
  obtain ⟨hilt, hieq⟩ := List.findIdx?_eq_some_iff_findIdx_eq.mp hi
  obtain ⟨hjlt, -⟩ := List.findIdx?_eq_some_iff_findIdx_eq.mp hj
  rw [hieq]
  rw [← hrecords.length_prerequisites] at hilt
  rw [← hrecords.length_dependents] at hjlt
  constructor
  · exact hrecords.manifest_eq
  · intro e' he'
    rcases List.mem_append.mp he' with hold | hnew
    · exact hrecords.declared e' hold
    · obtain rfl := List.mem_singleton.mp hnew
      exact Manifest.mem_names_of_position? hj
  · simp [connect, hrecords.length_prerequisites]
  · simp [connect, hrecords.length_dependents]
  · intro i' j'
    rw [prerequisitesOf_connect hilt, joined_concat hi hj, ← hrecords.mem_prerequisitesOf]
    split
    · simp_all [mem_insertPosition, or_comm]
    · simp_all
  · intro i' j'
    rw [dependentsOf_connect hjlt, joined_concat hi hj, ← hrecords.mem_dependentsOf]
    split
    · simp_all [mem_insertPosition, or_comm]
    · simp_all
  · intro k
    rw [prerequisitesOf_connect hilt]
    split
    · exact pairwise_insertPosition (hrecords.ascending_prerequisitesOf k)
    · exact hrecords.ascending_prerequisitesOf k
  · intro k
    rw [dependentsOf_connect hjlt]
    split
    · exact pairwise_insertPosition (hrecords.ascending_dependentsOf k)
    · exact hrecords.ascending_dependentsOf k

/-- Entering several edges records all of them. -/
theorem Records.foldlM_addEdge {g g' : Graph} {m : Manifest} {done edges : List Edge}
    (hrecords : g.Records m done) (hdependent : ∀ e ∈ edges, e.dependent ∈ m.names)
    (hok : edges.foldlM Graph.addEdge g = .ok g') : g'.Records m (done ++ edges) := by
  induction edges generalizing g done with
  | nil =>
    obtain rfl : g = g' := by simpa [Pure.pure, Except.pure] using hok
    simpa using hrecords
  | cons e edges ih =>
    rw [List.foldlM_cons] at hok
    obtain ⟨g₁, hfirst, hrest⟩ := bind_eq_ok.mp hok
    have hrecords₁ := hrecords.addEdge (hdependent e List.mem_cons_self) hfirst
    have h := ih hrecords₁ (fun e' he' => hdependent e' (List.mem_cons_of_mem _ he')) hrest
    simpa using h

/-- Edges whose dependencies are declared can all be entered. -/
theorem exists_foldlM_addEdge {g : Graph} {edges : List Edge}
    (hdeclared : ∀ e ∈ edges, e.dependency ∈ g.manifest.names) :
    ∃ g', edges.foldlM Graph.addEdge g = .ok g' := by
  induction edges generalizing g with
  | nil => exact ⟨g, rfl⟩
  | cons e edges ih =>
    obtain ⟨j, hj⟩ := Manifest.exists_position? (hdeclared e List.mem_cons_self)
    have hfirst := addEdge_eq_ok.mpr ⟨j, hj, rfl⟩
    obtain ⟨g', hrest⟩ := ih (g := g.connect j _)
      (fun e' he' => hdeclared e' (List.mem_cons_of_mem _ he'))
    exact ⟨g', by rw [List.foldlM_cons]; exact bind_eq_ok.mpr ⟨_, hfirst, hrest⟩⟩

end Graph

/-- The edges of a manifest join the positions of its requirements. -/
theorem Manifest.joined_edges_iff {m : Manifest} (hnodup : m.names.Nodup) {i j : ℕ} :
    m.Joined m.edges i j ↔ m.RequiresAt i j := by
  have hposition {name : String} {k : ℕ} :
      m.position? name = some k ↔ m.names[k]? = some name := by
    simp only [position?_eq_some hnodup, names, List.getElem?_map, Option.map_eq_some_iff]
  rw [requiresAt_iff hnodup]
  constructor
  · rintro ⟨e, he, hi, hj⟩
    exact ⟨e.dependent, e.dependency, hposition.mp hi, hposition.mp hj,
      exists_edge_iff_requires.mp ⟨e, he, rfl, rfl⟩⟩
  · rintro ⟨name, dependency, hi, hj, hrequires⟩
    obtain ⟨e, he, rfl, rfl⟩ := exists_edge_iff_requires.mpr hrequires
    exact ⟨e, he, hposition.mpr hi, hposition.mpr hj⟩

namespace Graph

/-- The graph is that of a sound manifest: the names are distinct, whatever is required is
declared, and the lists hold the requirements by position. -/
structure Represents (g : Graph) (m : Manifest) : Prop where
  manifest_eq : g.manifest = m
  nodup_names : m.names.Nodup
  /-- Only declared units are required. -/
  declared : ∀ name dependency, m.Requires name dependency → dependency ∈ m.names
  /-- Every unit has a list of the positions that it depends on. -/
  length_prerequisites : g.prerequisites.length = m.units.length
  mem_prerequisitesOf : ∀ i j, j ∈ g.prerequisitesOf i ↔ m.RequiresAt i j
  mem_dependentsOf : ∀ i j, i ∈ g.dependentsOf j ↔ m.RequiresAt i j
  ascending_prerequisitesOf : ∀ i, (g.prerequisitesOf i).Pairwise (· < ·)
  ascending_dependentsOf : ∀ j, (g.dependentsOf j).Pairwise (· < ·)

/-- A graph that records all edges of a manifest with distinct names represents the manifest. -/
theorem Records.represents {g : Graph} {m : Manifest} (hrecords : g.Records m m.edges)
    (hnodup : m.names.Nodup) : g.Represents m where
  manifest_eq := hrecords.manifest_eq
  nodup_names := hnodup
  declared name dependency hrequires := by
    obtain ⟨e, he, -, rfl⟩ := Manifest.exists_edge_iff_requires.mpr hrequires
    exact hrecords.declared e he
  length_prerequisites := hrecords.length_prerequisites
  mem_prerequisitesOf i j := by
    rw [hrecords.mem_prerequisitesOf, Manifest.joined_edges_iff hnodup]
  mem_dependentsOf i j := by
    rw [hrecords.mem_dependentsOf, Manifest.joined_edges_iff hnodup]
  ascending_prerequisitesOf := hrecords.ascending_prerequisitesOf
  ascending_dependentsOf := hrecords.ascending_dependentsOf

/-- A manifest has a graph when its names are distinct and all of its edges can be entered. -/
theorem ofManifest_eq_ok {m : Manifest} {g : Graph} :
    ofManifest m = .ok g ↔
      m.names.Nodup ∧ m.edges.foldlM Graph.addEdge (withoutEdges m) = .ok g := by
  unfold ofManifest
  cases hrepeated : firstRepeated [] m.names with
  | none =>
    have hnodup : m.names.Nodup := (firstRepeated_eq_none.mp hrepeated).1
    simp [hnodup]
  | some name =>
    have hnodup : ¬ m.names.Nodup := by
      intro hnodup
      rw [firstRepeated_eq_none.mpr ⟨hnodup, by simp⟩] at hrepeated
      cases hrepeated
    simp [hnodup]

/-- The graph of a manifest represents it. -/
theorem represents_of_ofManifest {m : Manifest} {g : Graph} (hok : ofManifest m = .ok g) :
    g.Represents m := by
  obtain ⟨hnodup, hedges⟩ := ofManifest_eq_ok.mp hok
  have hrecords := (records_withoutEdges m).foldlM_addEdge
    (fun e he => Manifest.dependent_mem_names he) hedges
  exact hrecords.represents hnodup

/-- A manifest has a graph exactly when its names are distinct and what is required is declared. -/
theorem exists_ofManifest_iff {m : Manifest} :
    (∃ g, ofManifest m = .ok g) ↔
      m.names.Nodup ∧ ∀ name dependency, m.Requires name dependency → dependency ∈ m.names := by
  constructor
  · rintro ⟨g, hok⟩
    have hrepresents := represents_of_ofManifest hok
    exact ⟨hrepresents.nodup_names, hrepresents.declared⟩
  · rintro ⟨hnodup, hdeclared⟩
    have hedges : ∀ e ∈ m.edges, e.dependency ∈ (withoutEdges m).manifest.names := fun e he =>
      hdeclared _ _ (Manifest.exists_edge_iff_requires.mp ⟨e, he, rfl, rfl⟩)
    obtain ⟨g, hg⟩ := exists_foldlM_addEdge hedges
    exact ⟨g, ofManifest_eq_ok.mpr ⟨hnodup, hg⟩⟩

end Graph

end Rollout
