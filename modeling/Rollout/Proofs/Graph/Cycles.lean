import Rollout.Proofs.Graph.Schedule
import Mathlib.Data.Fintype.Pigeonhole
import Mathlib.Data.Set.Finite.List
import Mathlib.Logic.Relation

/-!
# Units that cannot be scheduled

A unit stays unscheduled exactly when following requirements from it leads to a cycle. A unit that
is left over requires another one that is left over, and among finitely many units such a chain
closes. Conversely requirements lead from a scheduled unit to units scheduled before it, so they
never return.
-/

namespace Rollout

open Relation

/-- A chain that always goes on within a finite set comes back to one of its items. -/
theorem exists_cycle_of_forall_exists {α : Type} {r : α → α → Prop} {S : Set α} (hfinite : S.Finite)
    (hnext : ∀ a ∈ S, ∃ b ∈ S, r a b) {a : α} (ha : a ∈ S) :
    ∃ c, ReflTransGen r a c ∧ TransGen r c c := by
  have := hfinite.to_subtype
  choose next hmem hr using hnext
  let walk (k : ℕ) : S := (fun b : S => ⟨next b b.2, hmem b b.2⟩)^[k] ⟨a, ha⟩
  have hstep (k : ℕ) : r (walk k) (walk (k + 1)) := by
    simp only [walk, Function.iterate_succ_apply']
    exact hr _ _
  have hreach (k l : ℕ) : ReflTransGen r (walk k) (walk (k + l)) := by
    induction l with
    | zero => exact ReflTransGen.refl
    | succ l ih => exact ih.tail (hstep (k + l))
  have hcycle (k l : ℕ) (hlt : k < l) (heq : walk k = walk l) :
      ∃ c, ReflTransGen r a c ∧ TransGen r c c := by
    obtain ⟨d, rfl⟩ := Nat.exists_eq_add_of_lt hlt
    have hstart := hreach 0 k
    have hround : TransGen r (walk k) (walk (k + d + 1)) :=
      TransGen.tail' (hreach k d) (hstep (k + d))
    rw [Nat.zero_add] at hstart
    rw [← heq] at hround
    exact ⟨walk k, hstart, hround⟩
  obtain ⟨k, l, hne, heq⟩ := Finite.exists_ne_map_eq_of_infinite walk
  rcases Nat.lt_or_gt_of_ne hne with hlt | hlt
  · exact hcycle k l hlt heq
  · exact hcycle l k hlt heq.symm

namespace Manifest

/-- No unit requires itself, directly or by way of others. -/
def Acyclic (m : Manifest) : Prop :=
  ∀ name, ¬ TransGen m.Requires name name

/-- Following requirements from this unit leads to a cycle. -/
def ReachesCycle (m : Manifest) (name : String) : Prop :=
  ∃ other, ReflTransGen m.Requires name other ∧ TransGen m.Requires other other

end Manifest

namespace Graph

variable {g : Graph} {m : Manifest}

/-- The unit of this name has been scheduled in the end. -/
def Schedules (g : Graph) (name : String) : Prop :=
  ∃ i ∈ g.schedule.scheduled, g.manifest.position? name = some i

/-- The place of a unit in the finished schedule. -/
def placeOf (g : Graph) (name : String) : ℕ :=
  g.schedule.scheduled.idxOf ((g.manifest.position? name).getD 0)

/-- A unit is scheduled before those that depend on it. -/
theorem Schedule.Valid.idxOf_lt {s : Schedule} (hs : s.Valid g) {i j : ℕ}
    (hi : i ∈ s.scheduled) (hj : j ∈ g.prerequisitesOf i) :
    s.scheduled.idxOf j < s.scheduled.idxOf i := by
  obtain ⟨before, after, hsplit⟩ := List.append_of_mem hi
  have hready := hs.each_ready before i after hsplit
  have hjbefore := hready.2.2 j hj
  rw [hsplit, List.idxOf_append_of_mem hjbefore, List.idxOf_append_of_notMem hready.2.1,
    List.idxOf_cons_self, Nat.add_zero]
  exact List.idxOf_lt_length_of_mem hjbefore

/-- A requirement of a unit stands among the positions that it depends on. -/
theorem Represents.exists_position?_of_requires (hg : g.Represents m) {name dependency : String}
    (hrequires : m.Requires name dependency) {i : ℕ} (hi : m.position? name = some i) :
    ∃ j, m.position? dependency = some j ∧ j ∈ g.prerequisitesOf i := by
  obtain ⟨j, hj⟩ := Manifest.exists_position? (hg.declared _ _ hrequires)
  obtain ⟨e, he, hename⟩ := (Manifest.position?_eq_some hg.nodup_names).mp hj
  obtain ⟨d, hd, hdname⟩ := (Manifest.position?_eq_some hg.nodup_names).mp hi
  obtain ⟨d', hd', hname, hdependency⟩ := hrequires
  obtain rfl := Manifest.eq_of_mem_of_name_eq hg.nodup_names (List.mem_of_getElem? hd) hd'
    (hdname.trans hname.symm)
  exact ⟨j, hj, (hg.mem_prerequisitesOf _ _).mpr ⟨d, e, hd, he, by rwa [hename]⟩⟩

/-- Whatever a scheduled unit requires is scheduled before it. -/
theorem Schedules.requires (hg : g.Represents m) {name dependency : String}
    (hname : g.Schedules name) (hrequires : m.Requires name dependency) :
    g.Schedules dependency ∧ g.placeOf dependency < g.placeOf name := by
  obtain ⟨i, hi, hposition⟩ := hname
  rw [hg.manifest_eq] at hposition
  obtain ⟨j, hj, hprerequisite⟩ := hg.exists_position?_of_requires hrequires hposition
  have hvalid := valid_schedule hg
  constructor
  · exact ⟨j, hvalid.mem_scheduled_of_prerequisite hi hprerequisite, by rw [hg.manifest_eq, hj]⟩
  · simpa only [placeOf, hg.manifest_eq, hj, hposition, Option.getD_some] using
      hvalid.idxOf_lt hi hprerequisite

/-- Requirements of any number lead from a scheduled unit to one scheduled before it. -/
theorem Schedules.transGen (hg : g.Represents m) {name dependency : String}
    (hname : g.Schedules name) (hrequires : TransGen m.Requires name dependency) :
    g.Schedules dependency ∧ g.placeOf dependency < g.placeOf name := by
  induction hrequires with
  | single h => exact hname.requires hg h
  | tail _ h ih =>
    obtain ⟨hmiddle, hlt⟩ := ih
    obtain ⟨hlast, hlt'⟩ := hmiddle.requires hg h
    exact ⟨hlast, Nat.lt_trans hlt' hlt⟩

/-- A declared unit that is left over requires another one that is left over. -/
theorem exists_requires_of_not_schedules (hg : g.Represents m) {name : String}
    (hdeclared : name ∈ m.names) (hname : ¬ g.Schedules name) :
    ∃ dependency, (dependency ∈ m.names ∧ ¬ g.Schedules dependency) ∧
      m.Requires name dependency := by
  obtain ⟨i, hi⟩ := Manifest.exists_position? hdeclared
  obtain ⟨d, hd, hdname⟩ := (Manifest.position?_eq_some hg.nodup_names).mp hi
  have hsize : i < g.size := by
    rw [size, hg.manifest_eq]
    exact (List.getElem?_eq_some_iff.mp hd).1
  have hleft : i ∉ g.schedule.scheduled := fun hmem =>
    hname ⟨i, hmem, by rw [hg.manifest_eq, hi]⟩
  rw [mem_scheduled_iff hg hsize] at hleft
  push Not at hleft
  obtain ⟨j, hj, hjleft⟩ := hleft
  obtain ⟨d', e, hd', he, hdependency⟩ := (hg.mem_prerequisitesOf i j).mp hj
  obtain rfl : d = d' := Option.some.inj (hd.symm.trans hd')
  have hejposition : m.position? e.name = some j :=
    (Manifest.position?_eq_some hg.nodup_names).mpr ⟨e, he, rfl⟩
  refine ⟨e.name, ⟨Manifest.mem_names_of_position? hejposition, ?_⟩, d,
    List.mem_of_getElem? hd, hdname, hdependency⟩
  rintro ⟨k, hk, hkposition⟩
  rw [hg.manifest_eq, hejposition, Option.some.injEq] at hkposition
  exact hjleft (hkposition ▸ hk)

/-- A declared unit is left over exactly when a cycle can be reached from it. -/
theorem reachesCycle_iff_not_schedules (hg : g.Represents m) {name : String}
    (hdeclared : name ∈ m.names) : m.ReachesCycle name ↔ ¬ g.Schedules name := by
  constructor
  · rintro ⟨other, hreach, hcycle⟩ hname
    have hother : g.Schedules other := by
      rcases reflTransGen_iff_eq_or_transGen.mp hreach with rfl | hpath
      · exact hname
      · exact (hname.transGen hg hpath).1
    exact Nat.lt_irrefl _ (hother.transGen hg hcycle).2
  · intro hname
    let S : Set String := {n | n ∈ m.names ∧ ¬ g.Schedules n}
    have hfinite : S.Finite := m.names.finite_toSet.subset fun n hn => hn.1
    exact exists_cycle_of_forall_exists hfinite
      (fun n hn => exists_requires_of_not_schedules hg hn.1 hn.2) ⟨hdeclared, hname⟩

/-- The names of all positions are the names of the manifest. -/
theorem namesAt_range (g : Graph) : g.namesAt (List.range g.size) = g.manifest.names := by
  rw [namesAt, ← List.map_filterMap, size, filterMap_getElem?_range, Manifest.names]

/-- A name is reported when the unit is declared but not scheduled. -/
theorem mem_namesAt_unscheduled (hg : g.Represents m) {name : String} :
    name ∈ g.namesAt ((List.range g.size).filter fun i => i ∉ g.schedule.scheduled) ↔
      name ∈ m.names ∧ ¬ g.Schedules name := by
  simp only [namesAt, List.mem_filterMap, List.mem_filter, List.mem_range, decide_eq_true_eq,
    Option.map_eq_some_iff, size, hg.manifest_eq]
  constructor
  · rintro ⟨i, ⟨hi, hleft⟩, d, hd, rfl⟩
    have hposition := (Manifest.position?_eq_some hg.nodup_names).mpr ⟨d, hd, rfl⟩
    refine ⟨Manifest.mem_names_of_position? hposition, ?_⟩
    rintro ⟨k, hk, hkposition⟩
    rw [hg.manifest_eq, hposition, Option.some.injEq] at hkposition
    exact hleft (hkposition ▸ hk)
  · rintro ⟨hdeclared, hname⟩
    obtain ⟨i, hi⟩ := Manifest.exists_position? hdeclared
    obtain ⟨d, hd, hdname⟩ := (Manifest.position?_eq_some hg.nodup_names).mp hi
    exact ⟨i, ⟨(List.getElem?_eq_some_iff.mp hd).1, fun hmem =>
      hname ⟨i, hmem, by rw [hg.manifest_eq, hi]⟩⟩, d, hd, hdname⟩

end Graph

/-- Only a declared unit reaches a cycle. -/
theorem Manifest.ReachesCycle.mem_names {m : Manifest} {name : String}
    (hname : m.ReachesCycle name) : name ∈ m.names := by
  have hdeclared {a b : String} (hrequires : m.Requires a b) : a ∈ m.names := by
    obtain ⟨d, hd, rfl, -⟩ := hrequires
    exact List.mem_map_of_mem hd
  obtain ⟨other, hreach, hcycle⟩ := hname
  obtain ⟨next, hfirst, -⟩ := TransGen.head'_iff.mp (TransGen.trans_right hreach hcycle)
  exact hdeclared hfirst

namespace Graph

variable {g : Graph} {m : Manifest}

/-- The order fails when some declared unit has not been scheduled, and reports such units. -/
theorem order_eq_error (hg : g.Represents m) {e : GraphError} :
    g.order = .error e ↔ (∃ name ∈ m.names, ¬ g.Schedules name) ∧
      e = .cycle (g.namesAt ((List.range g.size).filter fun i => i ∉ g.schedule.scheduled)) := by
  have hleft : (∃ i < g.size, i ∉ g.schedule.scheduled) ↔
      ∃ name ∈ m.names, ¬ g.Schedules name := by
    constructor
    · rintro ⟨i, hi, hwaits⟩
      have hget : g.manifest.units[i]? = some g.manifest.units[i] := List.getElem?_eq_getElem hi
      have hname := (mem_namesAt_unscheduled hg).mp (List.mem_filterMap.mpr
        ⟨i, by simp [hi, hwaits], by rw [hget, Option.map_some]⟩)
      exact ⟨_, hname⟩
    · rintro ⟨name, hname⟩
      obtain ⟨i, hi, -⟩ := List.mem_filterMap.mp ((mem_namesAt_unscheduled hg).mpr hname)
      exact ⟨i, by simpa using hi⟩
  rw [order, map_eq_error, orderedPositions_eq_error hg, hleft]

/-- Some declared unit is left over exactly when the requirements close a cycle. -/
theorem exists_not_schedules_iff (hg : g.Represents m) :
    (∃ name ∈ m.names, ¬ g.Schedules name) ↔ ∃ name, TransGen m.Requires name name := by
  constructor
  · rintro ⟨name, hdeclared, hleft⟩
    obtain ⟨other, -, hcycle⟩ := (reachesCycle_iff_not_schedules hg hdeclared).mpr hleft
    exact ⟨other, hcycle⟩
  · rintro ⟨name, hcycle⟩
    have hreaches : m.ReachesCycle name := ⟨name, ReflTransGen.refl, hcycle⟩
    have hdeclared := hreaches.mem_names
    exact ⟨name, hdeclared, (reachesCycle_iff_not_schedules hg hdeclared).mp hreaches⟩

/-- The order of a manifest fails exactly when its requirements close a cycle. It then reports the
units from which a cycle can be reached and no others, in the order of declaration. -/
theorem order_eq_cycle_iff (hg : Graph.ofManifest m = .ok g) :
    ((∃ names, g.order = .error (.cycle names)) ↔ ∃ name, TransGen m.Requires name name) ∧
    ∀ names, g.order = .error (.cycle names) →
      names.Sublist m.names ∧ names.Nodup ∧ ∀ name, name ∈ names ↔ m.ReachesCycle name := by
  have hrepresents := represents_of_ofManifest hg
  constructor
  · rw [← exists_not_schedules_iff hrepresents]
    constructor
    · rintro ⟨names, hnames⟩
      exact ((order_eq_error hrepresents).mp hnames).1
    · intro hleft
      exact ⟨_, (order_eq_error hrepresents).mpr ⟨hleft, rfl⟩⟩
  · intro names hnames
    obtain ⟨-, hcycle⟩ := (order_eq_error hrepresents).mp hnames
    obtain rfl := GraphError.cycle.inj hcycle
    have hsublist : (g.namesAt ((List.range g.size).filter fun i =>
        i ∉ g.schedule.scheduled)).Sublist m.names := by
      rw [← hrepresents.manifest_eq, ← namesAt_range]
      exact List.Sublist.filterMap _ List.filter_sublist
    refine ⟨hsublist, hsublist.nodup hrepresents.nodup_names, fun name => ?_⟩
    rw [mem_namesAt_unscheduled hrepresents]
    constructor
    · rintro ⟨hdeclared, hleft⟩
      exact (reachesCycle_iff_not_schedules hrepresents hdeclared).mpr hleft
    · intro hreaches
      have hdeclared := hreaches.mem_names
      exact ⟨hdeclared, (reachesCycle_iff_not_schedules hrepresents hdeclared).mp hreaches⟩

/-- Two units that require each other, one that requires them both, and one that stands alone. -/
def tangled : Manifest :=
  ⟨[{ name := "A", links := ["B"] }, { name := "Tail", links := ["B"], args := [.unit "A"] },
    { name := "B", args := [.unit "A"] }, { name := "Free" }]⟩

/-- The order of the tangled units reports those that reach the cycle. -/
theorem order_tangled :
    ∃ g, Graph.ofManifest tangled = .ok g ∧
      g.order = .error (.cycle ["A", "Tail", "B"]) ∧
      ∀ name, name ∈ ["A", "Tail", "B"] ↔ tangled.ReachesCycle name := by
  obtain ⟨g, hg, horder⟩ : ∃ g, Graph.ofManifest tangled = .ok g ∧
      g.order = .error (.cycle ["A", "Tail", "B"]) := ⟨_, rfl, rfl⟩
  exact ⟨g, hg, horder, ((order_eq_cycle_iff hg).2 _ horder).2.2⟩

end Graph

end Rollout
