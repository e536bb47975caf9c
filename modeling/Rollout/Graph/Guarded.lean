import Rollout.Graph.Basic

/-!
# Guarded graphs

A graph can be built with an index of its names, and its loops can check what they rely on: that a
unit is in the index, that a position leads to an item and that no count falls below zero. A check
that fails is no error of the manifest but a fault, which ends the program.
-/

namespace Rollout.Graph

/-- A check that the program does not survive. -/
inductive Fault where
  /-- The index has no position for a unit that must be there. -/
  | missing (name : String)
  /-- A list has no item at a position. -/
  | outOfBounds (position count : Nat)
  /-- The count of the unit at a position is lowered, although it is zero. -/
  | underflow (position : Nat)
  deriving DecidableEq

/-- Why a guarded computation has no result. -/
inductive Stop where
  /-- The manifest has no graph. -/
  | refused (e : GraphError)
  /-- The program breaks off. -/
  | fault (f : Fault)
  deriving DecidableEq

/-- The item at a position that must be there. -/
def itemAt {α : Type} (items : List α) (position : Nat) : Except Fault α :=
  match items[position]? with
  | some item => .ok item
  | none => .error (.outOfBounds position items.length)

namespace Guarded

/-- An index of names: the position of each name that has one. -/
abbrev Index := String → Option Nat

/-- Note the position of a name. A name that has a position already is refused. -/
def note (index : Index) (entry : String × Nat) : Except GraphError Index :=
  if (index entry.1).isSome then .error (.duplicateUnit entry.1)
  else .ok fun name => if name = entry.1 then some entry.2 else index name

/-- The positions of all names. -/
def indexOf (names : List String) : Except GraphError Index :=
  names.zipIdx.foldlM note fun _ => none

/-- Enter a position into the list at a place that must be there. -/
def enterAt (lists : List (List Nat)) (place position : Nat) : Except Fault (List (List Nat)) :=
  (itemAt lists place).map fun positions => lists.set place (insertPosition position positions)

/-- Enter an edge between two positions. -/
def connect (g : Graph) (dependency dependent : Nat) : Except Fault Graph := do
  let prerequisites ← enterAt g.prerequisites dependent dependency
  let dependents ← enterAt g.dependents dependency dependent
  return { g with prerequisites, dependents }

/-- Enter an edge of the manifest. Its dependent must be in the index, and its dependency has to be
declared. -/
def addEdge (index : Index) (g : Graph) (e : Edge) : Except Stop Graph :=
  match index e.dependent with
  | none => .error (.fault (.missing e.dependent))
  | some dependent =>
    match index e.dependency with
    | none => .error (.refused (.unknownDependency e.dependent e.dependency))
    | some dependency => (connect g dependency dependent).mapError .fault

/-- The graph of a manifest. -/
def ofManifest (m : Manifest) : Except Stop Graph := do
  let index ← (indexOf m.names).mapError .refused
  m.edges.foldlM (addEdge index) (withoutEdges m)

end Guarded

/-- A schedule under construction, and what its ready list has been given. -/
structure Loop extends Schedule where
  /-- The units that were put into the ready list, in order. -/
  pushed : List Nat

namespace Loop

/-- Nothing scheduled yet. -/
def start (g : Graph) : Loop :=
  { Schedule.start g with pushed := (Schedule.start g).ready }

/-- Put a unit into the ready list. -/
def push (s : Loop) (i : Nat) : Loop :=
  { s with ready := insertReady i s.ready, pushed := s.pushed ++ [i] }

/-- Lower the count of a unit, and put it into the ready list when nothing is missing any more. -/
def release (s : Loop) (i : Nat) : Except Fault Loop :=
  match s.pending[i]? with
  | none => .error (.outOfBounds i s.pending.length)
  | some 0 => .error (.underflow i)
  | some 1 => .ok (push { s with pending := s.pending.set i 0 } i)
  | some (missing + 2) => .ok { s with pending := s.pending.set i (missing + 1) }

/-- Schedule the first ready unit, if there is one, and release its dependents. -/
def step (g : Graph) (s : Loop) : Except Fault Loop :=
  match s.ready with
  | [] => .ok s
  | i :: ready => do
    let _ ← itemAt g.manifest.units i
    let dependents ← itemAt g.dependents i
    dependents.foldlM release { s with ready, scheduled := s.scheduled ++ [i] }

/-- Take a number of steps. -/
def run (g : Graph) : Nat → Loop → Except Fault Loop
  | 0, s => .ok s
  | n + 1, s => (s.step g).bind (run g n)

end Loop

end Rollout.Graph
