import Rollout.Proofs.Graph.LeastOrder

/-!
# Faults of a manifest

A manifest can be put in order exactly when its names are distinct, whatever is required is
declared, and no unit requires itself. Otherwise the first of these three conditions that fails
decides the error, and the first place where it fails decides the names in it.
-/

namespace Rollout

namespace Manifest

variable {m : Manifest}

/-- The manifest can be put in order. -/
structure IsSound (m : Manifest) : Prop where
  nodup_names : m.names.Nodup
  /-- Only declared units are required. -/
  declared : ∀ name dependency, m.Requires name dependency → dependency ∈ m.names
  acyclic : m.Acyclic

/-- This is the first name that repeats an earlier one. -/
def FirstRepeats (m : Manifest) (name : String) : Prop :=
  ∃ before after, m.names = before ++ name :: after ∧ before.Nodup ∧ name ∈ before

/-- This is the first edge whose dependency is not declared. -/
def FirstUndeclared (m : Manifest) (e : Edge) : Prop :=
  ∃ before after, m.edges = before ++ e :: after ∧
    (∀ earlier ∈ before, earlier.dependency ∈ m.names) ∧ e.dependency ∉ m.names

/-- What is wrong with a manifest: the first condition that fails, and where it fails first. -/
inductive Fault (m : Manifest) : GraphError → Prop
  | duplicate {name : String} (hfirst : m.FirstRepeats name) : Fault m (.duplicateUnit name)
  | undeclared {e : Edge} (hnodup : m.names.Nodup) (hfirst : m.FirstUndeclared e) :
    Fault m (.unknownDependency e.dependent e.dependency)
  | cycle {names : List String} (hnodup : m.names.Nodup)
      (hdeclared : ∀ name dependency, m.Requires name dependency → dependency ∈ m.names)
      (hcyclic : ¬ m.Acyclic) (hsublist : names.Sublist m.names)
      (hnames : ∀ name, name ∈ names ↔ m.ReachesCycle name) : Fault m (.cycle names)

end Manifest

/-- The first repeated name stands behind names that are not repeated. -/
theorem firstRepeated_eq_some {seen names : List String} {name : String} :
    firstRepeated seen names = some name ↔ ∃ before after, names = before ++ name :: after ∧
      before.Nodup ∧ (∀ n ∈ before, n ∉ seen) ∧ (name ∈ before ∨ name ∈ seen) := by
  induction names generalizing seen with
  | nil => simp [firstRepeated]
  | cons n names ih =>
    by_cases hseen : n ∈ seen
    · simp only [firstRepeated, if_pos hseen, Option.some.injEq]
      constructor
      · rintro rfl
        exact ⟨[], names, rfl, List.nodup_nil, by simp, Or.inr hseen⟩
      · rintro ⟨before, after, hsplit, -, hnew, -⟩
        cases before with
        | nil => exact (List.cons.inj hsplit).1
        | cons n' before =>
          obtain ⟨rfl, -⟩ := List.cons.inj hsplit
          exact absurd hseen (hnew n List.mem_cons_self)
    · simp only [firstRepeated, if_neg hseen, ih]
      constructor
      · rintro ⟨before, after, rfl, hnodup, hnew, hname⟩
        refine ⟨n :: before, after, rfl, ?_, ?_, ?_⟩
        · exact List.nodup_cons.mpr ⟨fun hmem => hnew n hmem List.mem_cons_self, hnodup⟩
        · exact List.forall_mem_cons.mpr
            ⟨hseen, fun k hk hmem => hnew k hk (List.mem_cons_of_mem _ hmem)⟩
        · simp only [List.mem_cons] at hname ⊢
          tauto
      · rintro ⟨before, after, hsplit, hnodup, hnew, hname⟩
        cases before with
        | nil =>
          obtain ⟨rfl, -⟩ := List.cons.inj hsplit
          simp [hseen] at hname
        | cons n' before =>
          obtain ⟨rfl, rfl⟩ := List.cons.inj hsplit
          obtain ⟨hn, hnodup⟩ := List.nodup_cons.mp hnodup
          rw [List.forall_mem_cons] at hnew
          refine ⟨before, after, rfl, hnodup, fun k hk hmem => ?_, ?_⟩
          · rcases List.mem_cons.mp hmem with rfl | hmem
            · exact hn hk
            · exact hnew.2 k hk hmem
          · simp only [List.mem_cons] at hname ⊢
            tauto

namespace Graph

variable {g : Graph} {m : Manifest} {e : GraphError}

/-- An edge cannot be entered when its dependency is not declared. -/
theorem addEdge_eq_error {edge : Edge} : g.addEdge edge = .error e ↔
    edge.dependency ∉ g.manifest.names ∧ e = .unknownDependency edge.dependent edge.dependency := by
  rw [← Manifest.position?_eq_none]
  unfold addEdge
  cases g.manifest.position? edge.dependency with
  | none => simp [eq_comm]
  | some j => simp

/-- The edges of a manifest cannot all be entered when one of them has a dependency that is not
declared, and the first such edge decides the error. -/
theorem foldlM_addEdge_eq_error : m.edges.foldlM Graph.addEdge (withoutEdges m) = .error e ↔
    ∃ edge, m.FirstUndeclared edge ∧
      e = .unknownDependency edge.dependent edge.dependency := by
  rw [foldlM_eq_error]
  constructor
  · rintro ⟨before, edge, after, g, hsplit, hbefore, hedge⟩
    have hrecords := (records_withoutEdges m).foldlM_addEdge (fun earlier hearlier =>
      Manifest.dependent_mem_names (hsplit ▸ List.mem_append_left _ hearlier)) hbefore
    rw [List.nil_append] at hrecords
    obtain ⟨hundeclared, rfl⟩ := addEdge_eq_error.mp hedge
    rw [hrecords.manifest_eq] at hundeclared
    exact ⟨edge, ⟨before, after, hsplit, hrecords.declared, hundeclared⟩, rfl⟩
  · rintro ⟨edge, ⟨before, after, hsplit, hdeclared, hundeclared⟩, rfl⟩
    obtain ⟨g, hbefore⟩ := exists_foldlM_addEdge (g := withoutEdges m) hdeclared
    have hrecords := (records_withoutEdges m).foldlM_addEdge (fun earlier hearlier =>
      Manifest.dependent_mem_names (hsplit ▸ List.mem_append_left _ hearlier)) hbefore
    refine ⟨before, edge, after, g, hsplit, hbefore, addEdge_eq_error.mpr ⟨?_, rfl⟩⟩
    rwa [hrecords.manifest_eq]

/-- A manifest has no graph when a name is repeated, or else when a dependency is not declared. -/
theorem ofManifest_eq_error : ofManifest m = .error e ↔
    (∃ name, m.FirstRepeats name ∧ e = .duplicateUnit name) ∨
      m.names.Nodup ∧ ∃ edge, m.FirstUndeclared edge ∧
        e = .unknownDependency edge.dependent edge.dependency := by
  have hrepeats (name : String) : firstRepeated [] m.names = some name ↔ m.FirstRepeats name := by
    simp [firstRepeated_eq_some, Manifest.FirstRepeats]
  unfold ofManifest
  cases hrepeated : firstRepeated [] m.names with
  | none =>
    have hnodup : m.names.Nodup := (firstRepeated_eq_none.mp hrepeated).1
    have hnone (name : String) : ¬ m.FirstRepeats name := by simp [← hrepeats, hrepeated]
    simp [hnodup, hnone, foldlM_addEdge_eq_error]
  | some name =>
    have hnodup : ¬ m.names.Nodup := by
      intro hnodup
      rw [firstRepeated_eq_none.mpr ⟨hnodup, by simp⟩] at hrepeated
      cases hrepeated
    simp [hnodup, ← hrepeats, hrepeated, eq_comm]

/-- The order fails when the requirements close a cycle, and the error lists the units from which a
cycle can be reached, in the order of declaration. -/
theorem order_eq_error_iff (hg : g.Represents m) : g.order = .error e ↔
    ¬ m.Acyclic ∧ ∃ names, names.Sublist m.names ∧
      (∀ name, name ∈ names ↔ m.ReachesCycle name) ∧ e = .cycle names := by
  have hcyclic : (∃ name ∈ m.names, ¬ g.Schedules name) ↔ ¬ m.Acyclic := by
    rw [exists_not_schedules_iff hg, Manifest.Acyclic, not_forall_not]
  have hsublist : (g.namesAt ((List.range g.size).filter fun i =>
      i ∉ g.schedule.scheduled)).Sublist m.names := by
    rw [← hg.manifest_eq, ← namesAt_range]
    exact List.Sublist.filterMap _ List.filter_sublist
  have hmem (name : String) : name ∈ g.namesAt ((List.range g.size).filter fun i =>
      i ∉ g.schedule.scheduled) ↔ m.ReachesCycle name := by
    rw [mem_namesAt_unscheduled hg]
    constructor
    · rintro ⟨hdeclared, hleft⟩
      exact (reachesCycle_iff_not_schedules hg hdeclared).mpr hleft
    · intro hreaches
      have hdeclared := hreaches.mem_names
      exact ⟨hdeclared, (reachesCycle_iff_not_schedules hg hdeclared).mp hreaches⟩
  rw [order_eq_error hg, hcyclic]
  refine and_congr_right fun _ => ⟨fun he => ⟨_, hsublist, hmem, he⟩, ?_⟩
  rintro ⟨names, hsublist', hnames, rfl⟩
  have hperm : names.Perm _ := (List.perm_ext_iff_of_nodup
    (hsublist'.nodup hg.nodup_names) (hsublist.nodup hg.nodup_names)).mpr
      fun name => (hnames name).trans (hmem name).symm
  exact congrArg _ ((hg.nodup_names.perm_iff_eq_of_sublist hsublist' hsublist).mp hperm)

/-- A manifest that cannot be put in order has a fault. -/
theorem bind_order_eq_error : (ofManifest m >>= order) = .error e ↔ m.Fault e := by
  rw [bind_eq_error, ofManifest_eq_error]
  constructor
  · rintro ((⟨name, hfirst, rfl⟩ | ⟨hnodup, edge, hfirst, rfl⟩) | ⟨g, hok, horder⟩)
    · exact Manifest.Fault.duplicate hfirst
    · exact Manifest.Fault.undeclared hnodup hfirst
    · have hg := represents_of_ofManifest hok
      obtain ⟨hcyclic, names, hsublist, hnames, rfl⟩ := (order_eq_error_iff hg).mp horder
      exact Manifest.Fault.cycle hg.nodup_names hg.declared hcyclic hsublist hnames
  · intro hfault
    cases hfault with
    | duplicate hfirst => exact Or.inl (Or.inl ⟨_, hfirst, rfl⟩)
    | undeclared hnodup hfirst => exact Or.inl (Or.inr ⟨hnodup, _, hfirst, rfl⟩)
    | cycle hnodup hdeclared hcyclic hsublist hnames =>
      obtain ⟨g, hok⟩ := exists_ofManifest_iff.mpr ⟨hnodup, hdeclared⟩
      exact Or.inr ⟨g, hok, (order_eq_error_iff (represents_of_ofManifest hok)).mpr
        ⟨hcyclic, _, hsublist, hnames, rfl⟩⟩

/-- A manifest can be put in order exactly when it is sound. -/
theorem exists_bind_order_iff : (∃ units, (ofManifest m >>= order) = .ok units) ↔ m.IsSound := by
  simp only [bind_eq_ok]
  constructor
  · rintro ⟨units, g, hok, horder⟩
    have hg := represents_of_ofManifest hok
    exact ⟨hg.nodup_names, hg.declared, (exists_order_iff_acyclic hg).mp ⟨units, horder⟩⟩
  · rintro ⟨hnodup, hdeclared, hacyclic⟩
    obtain ⟨g, hok⟩ := exists_ofManifest_iff.mpr ⟨hnodup, hdeclared⟩
    obtain ⟨units, horder⟩ :=
      (exists_order_iff_acyclic (represents_of_ofManifest hok)).mpr hacyclic
    exact ⟨units, g, hok, horder⟩

end Graph

end Rollout
