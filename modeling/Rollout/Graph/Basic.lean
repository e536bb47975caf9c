import Rollout.Manifest.Basic

/-!
# Dependency graphs

A manifest has a graph when its unit names are distinct and every dependency is declared. The
graph keeps the neighbours of every unit by position, in both directions and without repetition,
so the kind and the number of the edges between two units do not matter.

Units are scheduled one after the other. A unit is ready when everything it depends on has been
scheduled, and of the ready units the one that is declared first comes next. Units that never
become ready are on a cycle or depend on one.
-/

namespace Rollout

/-! ## The dependency graph -/

/-- Why units cannot be put in order. -/
inductive GraphError where
  /-- These units cannot be scheduled. -/
  | cycle (units : List String)
  | unknownDependency (unit dependency : String)
  | duplicateUnit (unit : String)
  deriving DecidableEq, Repr

/-- The wording of a graph error. -/
def GraphError.message : GraphError → String
  | .cycle units => "dependency cycle among units: " ++ ", ".intercalate units
  | .unknownDependency unit dependency =>
    s!"unit '{unit}' depends on undefined unit '{dependency}'"
  | .duplicateUnit unit => s!"unit '{unit}' is declared more than once"

/-- Put a position into an ascending list that does not hold it yet. -/
def insertPosition (i : Nat) : List Nat → List Nat
  | [] => [i]
  | j :: js => if i < j then i :: j :: js else if i = j then j :: js else j :: insertPosition i js

/-- The units of a manifest with their neighbours, by position. -/
structure Graph where
  manifest : Manifest
  /-- The positions that each unit depends on, ascending. -/
  prerequisites : List (List Nat)
  /-- The positions that depend on each unit, ascending. -/
  dependents : List (List Nat)

namespace Manifest

/-- The position of a unit. -/
def position? (m : Manifest) (name : String) : Option Nat :=
  m.units.findIdx? (·.name == name)

/-- The names of the units in the order of declaration. -/
def names (m : Manifest) : List String :=
  m.units.map (·.name)

end Manifest

/-- The first name that was seen before. -/
def firstRepeated (seen : List String) : List String → Option String
  | [] => none
  | name :: names => if name ∈ seen then some name else firstRepeated (name :: seen) names

namespace Graph

/-- The units of a manifest without any edge. -/
def withoutEdges (m : Manifest) : Graph where
  manifest := m
  prerequisites := m.units.map fun _ => []
  dependents := m.units.map fun _ => []

/-- Enter an edge between two positions. -/
def connect (g : Graph) (dependency dependent : Nat) : Graph where
  manifest := g.manifest
  prerequisites := g.prerequisites.modify dependent (insertPosition dependency)
  dependents := g.dependents.modify dependency (insertPosition dependent)

/-- Enter an edge of the manifest, whose dependency has to be declared. -/
def addEdge (g : Graph) (e : Edge) : Except GraphError Graph :=
  match g.manifest.position? e.dependency with
  | none => .error (.unknownDependency e.dependent e.dependency)
  | some i => .ok (g.connect i (g.manifest.units.findIdx (·.name == e.dependent)))

/-- The graph of a manifest. Repeated names are reported before undeclared dependencies. -/
def ofManifest (m : Manifest) : Except GraphError Graph :=
  match firstRepeated [] m.names with
  | some name => .error (.duplicateUnit name)
  | none => m.edges.foldlM addEdge (withoutEdges m)

/-- The number of units. -/
def size (g : Graph) : Nat :=
  g.manifest.units.length

/-- The positions that a unit depends on. -/
def prerequisitesOf (g : Graph) (i : Nat) : List Nat :=
  g.prerequisites.getD i []

/-- The positions that depend on a unit. -/
def dependentsOf (g : Graph) (i : Nat) : List Nat :=
  g.dependents.getD i []

/-- The names of the units at these positions. -/
def namesAt (g : Graph) (positions : List Nat) : List String :=
  positions.filterMap fun i => (g.manifest.units[i]?).map (·.name)

/-- The units that a unit depends on directly, in the order of declaration. -/
def dependenciesOf (g : Graph) (name : String) : List String :=
  match g.manifest.position? name with
  | some i => g.namesAt (g.prerequisitesOf i)
  | none => []

end Graph

end Rollout

namespace Rollout.Graph

/-! ## Deployment order -/

/-- Put a position into an ascending list. -/
def insertReady (i : Nat) : List Nat → List Nat
  | [] => [i]
  | j :: js => if i < j then i :: j :: js else j :: insertReady i js

/-- A schedule under construction. -/
structure Schedule where
  /-- How many dependencies of each unit are still to come. -/
  pending : List Nat
  /-- The units whose dependencies have all been scheduled, ascending. -/
  ready : List Nat
  /-- The units scheduled so far, in order. -/
  scheduled : List Nat

namespace Schedule

/-- Nothing scheduled yet. -/
def start (g : Graph) : Schedule :=
  let pending := g.prerequisites.map List.length
  { pending, ready := (List.range g.size).filter fun i => pending.getD i 0 = 0, scheduled := [] }

/-- One dependency of a unit has been scheduled. -/
def release (s : Schedule) (i : Nat) : Schedule :=
  let missing := s.pending.getD i 0 - 1
  { pending := s.pending.set i missing
    ready := if missing = 0 then insertReady i s.ready else s.ready
    scheduled := s.scheduled }

/-- Schedule the first ready unit, if there is one. -/
def step (g : Graph) (s : Schedule) : Schedule :=
  match s.ready with
  | [] => s
  | i :: ready =>
    (g.dependentsOf i).foldl release
      { pending := s.pending, ready, scheduled := s.scheduled ++ [i] }

/-- Take a number of steps. -/
def run (g : Graph) : Nat → Schedule → Schedule
  | 0, s => s
  | n + 1, s => run g n (s.step g)

end Schedule

/-- The schedule after as many steps as there are units. -/
def schedule (g : Graph) : Schedule :=
  Schedule.run g g.size (Schedule.start g)

/-- The positions of the units in deployment order; a cycle reports the units that were never
ready, in the order of declaration. -/
def orderedPositions (g : Graph) : Except GraphError (List Nat) :=
  let s := g.schedule
  if s.scheduled.length < g.size then
    .error (.cycle (g.namesAt ((List.range g.size).filter fun i => 0 < s.pending.getD i 0)))
  else .ok s.scheduled

/-- The units in deployment order. -/
def order (g : Graph) : Except GraphError (List Declaration) :=
  g.orderedPositions.map fun positions => positions.filterMap (g.manifest.units[·]?)

end Rollout.Graph
