import Mathlib.Logic.Function.Basic
import Rollout.Graph.Basic
import Rollout.Proofs.Outcome

/-!
# Renamed manifests

When the units of a manifest get other names, everywhere they are named, its graph keeps the same
edges between the same positions. So the units are scheduled in the same order, or they fail to be
for the same reason.
-/

namespace Rollout

variable {f : String → String}

namespace Argument

/-- The argument after a change of unit names. -/
def rename (f : String → String) : Argument → Argument
  | .unit name => .unit (f name)
  | other => other

/-- The renamed argument names the renamed unit. -/
theorem unit?_rename (a : Argument) : (a.rename f).unit? = a.unit?.map f := by
  cases a <;> rfl

end Argument

namespace Declaration

/-- The declaration after a change of unit names. It still loads the artifact that it loaded
before. -/
def rename (f : String → String) (d : Declaration) : Declaration where
  name := f d.name
  artifact := some d.artifactName
  links := d.links.map f
  args := d.args.map (Argument.rename f)

/-- The renamed declaration loads the same artifact. -/
@[simp]
theorem artifactName_rename (d : Declaration) : (d.rename f).artifactName = d.artifactName := rfl

/-- The renamed declaration names the renamed units. -/
theorem referencedUnits_rename (d : Declaration) :
    (d.rename f).referencedUnits = d.referencedUnits.map f := by
  simp [referencedUnits, rename, List.filterMap_map, List.map_filterMap, Argument.unit?_rename]

end Declaration

/-- The edge after a change of unit names. -/
def Edge.rename (f : String → String) (e : Edge) : Edge :=
  ⟨f e.dependency, f e.dependent, e.kind⟩

/-- The graph error after a change of unit names. -/
def GraphError.rename (f : String → String) : GraphError → GraphError
  | .cycle units => .cycle (units.map f)
  | .unknownDependency unit dependency => .unknownDependency (f unit) (f dependency)
  | .duplicateUnit unit => .duplicateUnit (f unit)

namespace Manifest

/-- The manifest after a change of unit names. -/
def rename (f : String → String) (m : Manifest) : Manifest :=
  ⟨m.units.map (Declaration.rename f)⟩

/-- The renamed manifest has the renamed edges. -/
theorem edges_rename (m : Manifest) : (m.rename f).edges = m.edges.map (Edge.rename f) := by
  have hedges (d : Declaration) : edgesOf (d.rename f) = (edgesOf d).map (Edge.rename f) := by
    simp only [edgesOf, Declaration.referencedUnits_rename, List.map_append, List.map_map]
    simp [Declaration.rename, Edge.rename, Function.comp_def]
  simp only [edges, rename, List.flatMap_map, List.map_flatMap, hedges]

end Manifest

/-- A name is repeated after a change of names exactly when it was before. -/
theorem firstRepeated_map (hf : Function.Injective f) (seen names : List String) :
    firstRepeated (seen.map f) (names.map f) = (firstRepeated seen names).map f := by
  induction names generalizing seen with
  | nil => rfl
  | cons name names ih =>
    rw [List.map_cons, firstRepeated, firstRepeated, ← List.map_cons, ih]
    simp only [List.mem_map_of_injective hf]
    split <;> rfl

namespace Graph

/-- The graph after a change of unit names. -/
def rename (f : String → String) (g : Graph) : Graph :=
  { g with manifest := g.manifest.rename f }

/-- A renamed edge is entered like the edge. -/
theorem addEdge_rename (hf : Function.Injective f) (g : Graph) (e : Edge) :
    (g.rename f).addEdge (e.rename f) =
      mapBoth (GraphError.rename f) (rename f) (g.addEdge e) := by
  have hposition : (g.manifest.rename f).position? (f e.dependency) =
      g.manifest.position? e.dependency := by
    simp [Manifest.position?, Manifest.rename, Declaration.rename, List.findIdx?_map,
      Function.comp_def, hf.beq_eq]
  have hdependent : (g.manifest.rename f).units.findIdx (·.name == f e.dependent) =
      g.manifest.units.findIdx (·.name == e.dependent) := by
    simp [Manifest.rename, Declaration.rename, List.findIdx_map, Function.comp_def, hf.beq_eq]
  simp only [addEdge, rename, Edge.rename, hposition, hdependent]
  cases g.manifest.position? e.dependency <;> rfl

/-- The renamed manifest has the renamed graph, or fails to have one like the manifest. -/
theorem ofManifest_rename (hf : Function.Injective f) (m : Manifest) :
    ofManifest (m.rename f) = mapBoth (GraphError.rename f) (rename f) (ofManifest m) := by
  have hnames : (m.rename f).names = m.names.map f := by
    simp [Manifest.names, Manifest.rename, Declaration.rename, Function.comp_def]
  have hrepeated : firstRepeated [] (m.rename f).names = (firstRepeated [] m.names).map f := by
    rw [hnames]
    exact firstRepeated_map hf [] m.names
  have hstart : withoutEdges (m.rename f) = (withoutEdges m).rename f := by
    simp [withoutEdges, rename, Manifest.rename, Function.comp_def]
  rw [ofManifest, ofManifest, hrepeated]
  cases firstRepeated [] m.names with
  | some name => rfl
  | none =>
    simp only [Option.map_none, hstart, Manifest.edges_rename]
    exact foldlM_map_eq_mapBoth (fun e _ g => addEdge_rename hf g e) _

/-- The renamed graph has as many units. -/
@[simp]
theorem size_rename (g : Graph) : (g.rename f).size = g.size :=
  List.length_map _

/-- The units of the renamed graph are those of the graph with their names changed. -/
theorem namesAt_rename (g : Graph) (positions : List ℕ) :
    (g.rename f).namesAt positions = (g.namesAt positions).map f := by
  simp [namesAt, rename, Manifest.rename, Declaration.rename, List.map_filterMap,
    Function.comp_def]

/-- The schedule does not depend on the names. -/
theorem schedule_rename (g : Graph) : (g.rename f).schedule = g.schedule := by
  have hrun (n : ℕ) (s : Schedule) : Schedule.run (g.rename f) n s = Schedule.run g n s := by
    induction n generalizing s with
    | zero => rfl
    | succ n ih => exact ih _
  have hstart : Schedule.start (g.rename f) = Schedule.start g := by
    simp [Schedule.start, rename, size, Manifest.rename]
  rw [schedule, schedule, size_rename, hrun, hstart]

/-- The renamed graph has the renamed order, or fails to have one like the graph. -/
theorem order_rename (g : Graph) :
    (g.rename f).order =
      mapBoth (GraphError.rename f) (List.map (Declaration.rename f)) g.order := by
  simp only [order, orderedPositions, schedule_rename, size_rename, namesAt_rename]
  split
  · rfl
  · simp [rename, Manifest.rename, Except.map, List.map_filterMap]

end Graph

end Rollout
