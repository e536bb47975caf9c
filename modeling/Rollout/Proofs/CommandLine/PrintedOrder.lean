import Rollout.CommandLine.Commands
import Rollout.Proofs.Graph.Construction

/-!
# The printed order

An order is printed with one line for each unit below a line with their number. The line of a unit
shows its place in the order, counted from one, then its name, and behind an arrow the units that it
requires, in the order of declaration.
-/

namespace Rollout

namespace Command

variable {m : Manifest} {g : Graph}

/-- The line shows a unit by its place and its name, and then the units that it requires. A place of
one digit has a blank in front. -/
structure ShowsUnit (m : Manifest) (place : ℕ) (name : String) (required : List String)
    (line : String) : Prop where
  mem_required : ∀ dependency, dependency ∈ required ↔ m.Requires name dependency
  sublist_required : required.Sublist m.names
  toList_line : line.toList =
    "  ".toList ++ List.replicate (2 - (Nat.toDigits 10 place).length) ' ' ++ Nat.toDigits 10 place ++
      ". ".toList ++ name.toList ++
      if required = [] then [] else "  <- ".toList ++ (", ".intercalate required).toList

/-- The lines show units in an order. -/
structure ShowsOrder (m : Manifest) (names lines : List String) : Prop where
  length_lines : lines.length = names.length + 1
  head?_lines : lines.head? = some s!"Deployment order ({names.length} units):"
  shows_unit : ∀ i name, names[i]? = some name →
    ∃ line required, lines[i + 1]? = some line ∧ ShowsUnit m (i + 1) name required line

/-- The line of a unit shows it with its neighbours in the graph. -/
theorem showsUnit_orderLine (hg : g.Mirrors m) (d : Declaration) (i : ℕ) :
    ShowsUnit m (i + 1) d.name (g.dependenciesOf d.name) (orderLine g (d, i)) where
  mem_required := hg.mem_dependenciesOf d.name
  sublist_required := hg.sublist_dependenciesOf d.name
  toList_line := by
    have hnumber : toString (i + 1) = String.ofList (Nat.toDigits 10 (i + 1)) := rfl
    have htext (s : String) : toString s = s := rfl
    unfold orderLine
    cases hrequired : g.dependenciesOf d.name with
    | nil => simp [padLeft, hnumber, htext, -Nat.toString_eq_repr]
    | cons dependency dependencies => simp [padLeft, hnumber, htext, -Nat.toString_eq_repr]

/-- The printed lines show the order. -/
theorem showsOrder_orderLines (hg : g.Mirrors m) (order : List Declaration) :
    ShowsOrder m (order.map (·.name)) (orderLines g order) where
  length_lines := by simp [orderLines]
  head?_lines := by simp [orderLines]
  shows_unit := by
    intro i name hname
    rw [List.getElem?_map, Option.map_eq_some_iff] at hname
    obtain ⟨d, hd, rfl⟩ := hname
    refine ⟨orderLine g (d, i), _, ?_, showsUnit_orderLine hg d i⟩
    simp [orderLines, List.getElem?_zipIdx, hd]

end Command

end Rollout
