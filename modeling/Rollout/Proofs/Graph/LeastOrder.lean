import Rollout.Proofs.Graph.Cycles
import Mathlib.Data.List.Lex

/-!
# The least deployment order

Without cycles every unit is scheduled, and the schedule is the first of all deployment orders when
orders are compared like words, by the positions of their units. The least ready position comes
first in every step, so another order can only put a greater one in its place.
-/

namespace Rollout

open Relation

/-- Of two arrangements of the same items, one that always takes the least admissible item comes
first. -/
theorem eq_or_lex_of_each_least {P : List ℕ → ℕ → Prop} {a b : List ℕ} (hperm : a.Perm b)
    (ha : EachAfter (fun before i => ∀ k, P before k → i ≤ k) a) (hb : EachAfter P b) :
    a = b ∨ List.Lex (· < ·) a b := by
  induction a generalizing b P with
  | nil => exact Or.inl hperm.nil_eq
  | cons i a ih =>
    cases b with
    | nil => exact absurd hperm.symm.nil_eq (List.cons_ne_nil i a).symm
    | cons k b =>
      obtain ⟨hleast, ha⟩ := eachAfter_cons.mp ha
      obtain ⟨hk, hb⟩ := eachAfter_cons.mp hb
      rcases Nat.lt_or_eq_of_le (hleast k hk) with hlt | rfl
      · exact Or.inr (List.Lex.rel hlt)
      · rcases ih hperm.cons_inv ha hb with rfl | hlex
        · exact Or.inl rfl
        · exact Or.inr (List.Lex.cons hlex)

namespace Manifest

/-- The units can be deployed in this order: every declared unit occurs once, and it comes after
the units that it links or names in its arguments. -/
structure IsDeploymentOrder (m : Manifest) (units : List Declaration) : Prop where
  perm : units.Perm m.units
  after_dependencies : EachAfter
    (fun before d => ∀ name ∈ d.dependencies, ∃ e ∈ before, e.name = name) units

/-- The units of an order, each by its position in the declaration. -/
def positions (m : Manifest) (units : List Declaration) : List ℕ :=
  units.map fun d => m.units.idxOf d

/-- Distinct names belong to distinct units. -/
theorem nodup_units {m : Manifest} (hnodup : m.names.Nodup) : m.units.Nodup :=
  List.Nodup.of_map _ hnodup

/-- The positions of declared units lead back to the units. -/
theorem filterMap_positions {m : Manifest} {units : List Declaration} (hsubset : units ⊆ m.units) :
    (m.positions units).filterMap (m.units[·]?) = units := by
  induction units with
  | nil => rfl
  | cons d units ih =>
    obtain ⟨hd, hunits⟩ := List.cons_subset.mp hsubset
    have hget : m.units[m.units.idxOf d]? = some d := List.getElem?_idxOf hd
    have hrest : (units.map fun d => m.units.idxOf d).filterMap (m.units[·]?) = units := ih hunits
    simp only [positions, List.map_cons, List.filterMap_cons, hget, hrest]

/-- The units at these positions have these positions. -/
theorem positions_filterMap {m : Manifest} (hnodup : m.names.Nodup) {order : List ℕ}
    (horder : ∀ i ∈ order, i < m.units.length) :
    m.positions (order.filterMap (m.units[·]?)) = order := by
  induction order with
  | nil => rfl
  | cons i order ih =>
    have hi := horder i List.mem_cons_self
    have hrest := ih fun k hk => horder k (List.mem_cons_of_mem _ hk)
    have hposition : m.units.idxOf m.units[i] = i := (nodup_units hnodup).idxOf_getElem i hi
    rw [List.filterMap_cons, List.getElem?_eq_getElem hi]
    simp only [positions, List.map_cons, hposition, List.cons.injEq, true_and]
    exact hrest

end Manifest

namespace Graph

variable {g : Graph} {m : Manifest}

/-- The positions are in order: each of them occurs once and can come next when it does. -/
structure IsOrder (g : Graph) (order : List ℕ) : Prop where
  perm : order.Perm (List.range g.size)
  each_ready : EachAfter g.IsReady order

/-- All units are scheduled in order, if all are scheduled. -/
theorem isOrder_schedule (hg : g.Represents m)
    (hperm : g.schedule.scheduled.Perm (List.range g.size)) : g.IsOrder g.schedule.scheduled :=
  ⟨hperm, (valid_schedule hg).each_ready⟩

/-- No order comes before the schedule. -/
theorem IsOrder.schedule_eq_or_lex {order : List ℕ} (hg : g.Represents m)
    (hperm : g.schedule.scheduled.Perm (List.range g.size)) (horder : g.IsOrder order) :
    g.schedule.scheduled = order ∨ List.Lex (· < ·) g.schedule.scheduled order :=
  eq_or_lex_of_each_least (hperm.trans horder.perm.symm) (valid_schedule hg).each_least
    horder.each_ready

/-- A unit can come next when it is new and the units that it requires stand before it. -/
theorem isReady_positions_iff (hg : g.Represents m) {before : List Declaration} {d : Declaration}
    (hbefore : before ⊆ m.units) (hd : d ∈ m.units) :
    g.IsReady (m.positions before) (m.units.idxOf d) ↔
      d ∉ before ∧ ∀ name ∈ d.dependencies, ∃ e ∈ before, e.name = name := by
  have hget : m.units[m.units.idxOf d]? = some d := List.getElem?_idxOf hd
  have hsize : m.units.idxOf d < g.size := by
    rw [size, hg.manifest_eq]
    exact List.idxOf_lt_length_of_mem hd
  have hmem : m.units.idxOf d ∈ m.positions before ↔ d ∈ before := by
    constructor
    · intro h
      obtain ⟨e, he, heq⟩ := List.mem_map.mp h
      rwa [← (List.idxOf_inj (hbefore he)).mp heq]
    · exact fun h => List.mem_map_of_mem h
  simp only [IsReady, hsize, hmem, true_and]
  refine and_congr_right fun _ => ⟨fun hready name hname => ?_, fun hready j hj => ?_⟩
  · have hdeclared := hg.declared d.name name ⟨d, hd, rfl, hname⟩
    obtain ⟨e, he, rfl⟩ := List.mem_map.mp hdeclared
    have hrequires : m.units.idxOf e ∈ g.prerequisitesOf (m.units.idxOf d) :=
      (hg.mem_prerequisitesOf _ _).mpr ⟨d, e, hget, List.getElem?_idxOf he, hname⟩
    obtain ⟨e', he', heq⟩ := List.mem_map.mp (hready _ hrequires)
    exact ⟨e', he', congrArg Declaration.name ((List.idxOf_inj (hbefore he')).mp heq)⟩
  · obtain ⟨d', e, hd', he, hname⟩ := (hg.mem_prerequisitesOf _ _).mp hj
    obtain rfl : d = d' := Option.some.inj (hget.symm.trans hd')
    obtain ⟨e', he', heq⟩ := hready e.name hname
    have hget' : m.units[m.units.idxOf e']? = some e' := List.getElem?_idxOf (hbefore he')
    obtain rfl := Manifest.eq_of_name_eq hg.nodup_names hget' he heq
    exact List.mem_map_of_mem he'

/-- Declared units are all units when their positions are all positions. -/
theorem perm_positions_iff (hg : g.Represents m) {units : List Declaration}
    (hsubset : units ⊆ m.units) :
    (m.positions units).Perm (List.range g.size) ↔ units.Perm m.units := by
  have hall : m.positions m.units = List.range g.size := by
    have hlt : ∀ i ∈ List.range m.units.length, i < m.units.length := fun i => List.mem_range.mp
    have h := Manifest.positions_filterMap hg.nodup_names hlt
    rwa [filterMap_getElem?_range, ← congrArg (·.units.length) hg.manifest_eq] at h
  rw [← hall]
  constructor
  · intro h
    have hback := h.filterMap (m.units[·]?)
    rwa [Manifest.filterMap_positions hsubset,
      Manifest.filterMap_positions (List.Subset.refl _)] at hback
  · intro h
    exact h.map _

/-- The orders of the units are the orders of their positions. -/
theorem isOrder_positions_iff (hg : g.Represents m) {units : List Declaration}
    (hsubset : units ⊆ m.units) : g.IsOrder (m.positions units) ↔ m.IsDeploymentOrder units := by
  have hready (hunits : units.Perm m.units) : EachAfter g.IsReady (m.positions units) ↔
      EachAfter (fun before d => ∀ name ∈ d.dependencies, ∃ e ∈ before, e.name = name) units := by
    unfold Manifest.positions
    rw [eachAfter_map]
    apply eachAfter_congr
    rintro before d after rfl
    have hbefore : before ⊆ m.units := fun e he => hsubset (List.mem_append_left _ he)
    have hd : d ∈ m.units := hsubset (List.mem_append_right _ List.mem_cons_self)
    have hnew : d ∉ before := by
      have hnodup := hunits.nodup_iff.mpr (Manifest.nodup_units hg.nodup_names)
      exact fun h => (List.nodup_append.mp hnodup).2.2 d h d List.mem_cons_self rfl
    rw [← Manifest.positions, isReady_positions_iff hg hbefore hd]
    exact and_iff_right hnew
  constructor
  · rintro ⟨hpositions, heach⟩
    have hunits := (perm_positions_iff hg hsubset).mp hpositions
    exact ⟨hunits, (hready hunits).mp heach⟩
  · rintro ⟨hunits, heach⟩
    exact ⟨(perm_positions_iff hg hsubset).mpr hunits, (hready hunits).mpr heach⟩

/-- The order of a manifest is the schedule, if all units are scheduled. -/
theorem order_eq_ok (hg : g.Represents m) {units : List Declaration} :
    g.order = .ok units ↔ g.schedule.scheduled.Perm (List.range g.size) ∧
      g.schedule.scheduled.filterMap (m.units[·]?) = units := by
  simp only [order, map_eq_ok, orderedPositions_eq_ok hg, hg.manifest_eq]
  constructor
  · rintro ⟨_, ⟨rfl, hperm⟩, hunits⟩
    exact ⟨hperm, hunits⟩
  · rintro ⟨hperm, hunits⟩
    exact ⟨_, ⟨rfl, hperm⟩, hunits⟩

/-- The units in order have the positions of the schedule. -/
theorem positions_order (hg : g.Represents m) {units : List Declaration}
    (horder : g.order = .ok units) :
    m.positions units = g.schedule.scheduled ∧ units ⊆ m.units := by
  obtain ⟨hperm, rfl⟩ := (order_eq_ok hg).mp horder
  refine ⟨Manifest.positions_filterMap hg.nodup_names fun i hi => ?_, fun d hd => ?_⟩
  · have hsize := List.mem_range.mp (hperm.subset hi)
    rwa [size, hg.manifest_eq] at hsize
  · obtain ⟨i, -, hi⟩ := List.mem_filterMap.mp hd
    exact List.mem_of_getElem? hi

/-- The order of a manifest is a deployment order. -/
theorem isDeploymentOrder_of_order (hg : g.Represents m) {units : List Declaration}
    (horder : g.order = .ok units) : m.IsDeploymentOrder units := by
  obtain ⟨hpositions, hsubset⟩ := positions_order hg horder
  rw [← isOrder_positions_iff hg hsubset, hpositions]
  exact isOrder_schedule hg ((order_eq_ok hg).mp horder).1

/-- The order of a manifest comes before all of its other deployment orders. -/
theorem positions_order_eq_or_lex (hg : g.Represents m) {units other : List Declaration}
    (horder : g.order = .ok units) (hother : m.IsDeploymentOrder other) :
    m.positions units = m.positions other ∨
      List.Lex (· < ·) (m.positions units) (m.positions other) := by
  rw [(positions_order hg horder).1]
  have hpositions := (isOrder_positions_iff hg hother.perm.subset).mpr hother
  exact hpositions.schedule_eq_or_lex hg ((order_eq_ok hg).mp horder).1

/-- A manifest has an order exactly when it has no cycles. -/
theorem exists_order_iff_acyclic (hg : g.Represents m) :
    (∃ units, g.order = .ok units) ↔ m.Acyclic := by
  constructor
  · rintro ⟨units, horder⟩ name hcycle
    have hleft := (exists_not_schedules_iff hg).mpr ⟨name, hcycle⟩
    have herror := (order_eq_error hg).mpr ⟨hleft, rfl⟩
    rw [horder] at herror
    cases herror
  · intro hacyclic
    cases horder : g.order with
    | ok units => exact ⟨units, rfl⟩
    | error e =>
      have hleft := ((order_eq_error hg).mp horder).1
      obtain ⟨name, hcycle⟩ := (exists_not_schedules_iff hg).mp hleft
      exact absurd hcycle (hacyclic name)

/-- Orders depend only on the names and on the requirements between them. -/
theorem isOrder_congr {g' : Graph} {m' : Manifest} (hg : g.Represents m) (hg' : g'.Represents m')
    (hnames : m'.names = m.names)
    (hrequires : ∀ name dependency, m'.Requires name dependency ↔ m.Requires name dependency)
    (order : List ℕ) : g'.IsOrder order ↔ g.IsOrder order := by
  have hsize : g'.size = g.size := by
    simpa [size, hg.manifest_eq, hg'.manifest_eq, Manifest.names] using congrArg List.length hnames
  have hmem (i j : ℕ) : j ∈ g'.prerequisitesOf i ↔ j ∈ g.prerequisitesOf i := by
    simp only [hg.mem_prerequisitesOf, hg'.mem_prerequisitesOf,
      Manifest.requiresAt_iff hg.nodup_names,
      Manifest.requiresAt_iff hg'.nodup_names, hnames, hrequires]
  have hready : g'.IsReady = g.IsReady := by
    funext scheduled i
    simp only [IsReady, hsize, hmem]
  constructor
  · rintro ⟨hperm, heach⟩
    exact ⟨hsize ▸ hperm, hready ▸ heach⟩
  · rintro ⟨hperm, heach⟩
    exact ⟨hsize ▸ hperm, hready ▸ heach⟩

/-- The names in order are those at the positions of the schedule. -/
theorem names_order (hg : g.Represents m) {units : List Declaration}
    (horder : g.order = .ok units) :
    units.map (·.name) = g.schedule.scheduled.filterMap (m.names[·]?) := by
  obtain ⟨-, rfl⟩ := (order_eq_ok hg).mp horder
  rw [List.map_filterMap]
  simp only [Manifest.names, List.getElem?_map]

/-- Manifests with the same names and the same requirements have the same order. -/
theorem names_order_congr {g' : Graph} {m' : Manifest} (hg : g.Represents m)
    (hg' : g'.Represents m') (hnames : m'.names = m.names)
    (hrequires : ∀ name dependency, m'.Requires name dependency ↔ m.Requires name dependency)
    {units units' : List Declaration} (horder : g.order = .ok units)
    (horder' : g'.order = .ok units') : units'.map (·.name) = units.map (·.name) := by
  have hperm := ((order_eq_ok hg).mp horder).1
  have hperm' := ((order_eq_ok hg').mp horder').1
  have hle := IsOrder.schedule_eq_or_lex hg hperm
    ((isOrder_congr hg hg' hnames hrequires _).mp (isOrder_schedule hg' hperm'))
  have hge := IsOrder.schedule_eq_or_lex hg' hperm'
    ((isOrder_congr hg hg' hnames hrequires _).mpr (isOrder_schedule hg hperm))
  have hschedule : g'.schedule.scheduled = g.schedule.scheduled := by
    rcases hle with heq | hlt
    · exact heq.symm
    · rcases hge with heq | hgt
      · exact heq
      · exact absurd hgt (Std.Asymm.asymm _ _ hlt)
  rw [names_order hg horder, names_order hg' horder', hschedule, hnames]

/-- If a manifest has an order, then so has every manifest with the same names and the same
requirements, and its order is the same. -/
theorem exists_order_congr {m' : Manifest} (hg : g.Represents m) (hnames : m'.names = m.names)
    (hrequires : ∀ name dependency, m'.Requires name dependency ↔ m.Requires name dependency)
    {units : List Declaration} (horder : g.order = .ok units) :
    ∃ g' units', ofManifest m' = .ok g' ∧ g'.order = .ok units' ∧
      units'.map (·.name) = units.map (·.name) := by
  have hsame : m'.Requires = m.Requires := by
    funext name dependency
    exact propext (hrequires name dependency)
  obtain ⟨g', hok'⟩ := exists_ofManifest_iff.mpr
    ⟨hnames ▸ hg.nodup_names, by rw [hnames, hsame]; exact hg.declared⟩
  have hg' := represents_of_ofManifest hok'
  have hacyclic' : m'.Acyclic := by
    rw [Manifest.Acyclic, hsame]
    exact (exists_order_iff_acyclic hg).mp ⟨units, horder⟩
  obtain ⟨units', horder'⟩ := (exists_order_iff_acyclic hg').mpr hacyclic'
  exact ⟨g', units', hok', horder', names_order_congr hg hg' hnames hrequires horder horder'⟩

/-- A manifest without cycles is put into the first of its deployment orders. Nothing but the names
in the order of declaration and the requirements between them decides what this order is. -/
theorem order_isLeast (hok : Graph.ofManifest m = .ok g) (hacyclic : m.Acyclic) :
    ∃ units, g.order = .ok units ∧ m.IsDeploymentOrder units ∧
      (∀ other, m.IsDeploymentOrder other →
        m.positions units = m.positions other ∨
          List.Lex (· < ·) (m.positions units) (m.positions other)) ∧
      ∀ m' : Manifest, m'.names = m.names →
        (∀ name dependency, m'.Requires name dependency ↔ m.Requires name dependency) →
        ∃ g' units', Graph.ofManifest m' = .ok g' ∧ g'.order = .ok units' ∧
          units'.map (·.name) = units.map (·.name) := by
  have hg := represents_of_ofManifest hok
  obtain ⟨units, horder⟩ := (exists_order_iff_acyclic hg).mpr hacyclic
  refine ⟨units, horder, isDeploymentOrder_of_order hg horder,
    fun other hother => positions_order_eq_or_lex hg horder hother, ?_⟩
  exact fun m' hnames hrequires => exists_order_congr hg hnames hrequires horder

/-- A unit that needs two libraries, one of them twice, and one unit that stands alone. -/
def layered : Manifest :=
  ⟨[{ name := "App", links := ["Lib", "Base"], args := [.unit "Base", .deployer] },
    { name := "Base" }, { name := "Free" }, { name := "Lib", links := ["Base"] }]⟩

/-- The order of the layered units comes before their other deployment orders. -/
theorem order_layered :
    ∃ g, Graph.ofManifest layered = .ok g ∧ layered.Acyclic ∧
      ∃ units, g.order = .ok units ∧ layered.positions units = [1, 2, 3, 0] ∧
        ∀ other, layered.IsDeploymentOrder other →
          [1, 2, 3, 0] = layered.positions other ∨
            List.Lex (· < ·) [1, 2, 3, 0] (layered.positions other) := by
  obtain ⟨g, hok, units, horder, hpositions⟩ : ∃ g, Graph.ofManifest layered = .ok g ∧
      ∃ units, g.order = .ok units ∧ layered.positions units = [1, 2, 3, 0] :=
    ⟨_, rfl, _, rfl, by decide⟩
  have hacyclic := (exists_order_iff_acyclic (represents_of_ofManifest hok)).mp ⟨units, horder⟩
  obtain ⟨units', horder', -, hleast, -⟩ := order_isLeast hok hacyclic
  obtain rfl : units = units' := Except.ok.inj (horder.symm.trans horder')
  exact ⟨g, hok, hacyclic, units, horder, hpositions, hpositions ▸ hleast⟩

end Graph

end Rollout
