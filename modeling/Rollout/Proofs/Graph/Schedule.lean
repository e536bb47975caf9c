import Rollout.Graph.Basic
import Rollout.Proofs.Graph.Edges
import Rollout.Proofs.Sequence
import Mathlib.Data.List.Perm.Subperm

/-!
# The invariant of scheduling

While a schedule is under construction, the pending counts tell how many dependencies of each unit
are missing, the ready list holds the units that can come next, and every scheduled unit was the
least one that could come when it was taken. One step keeps this, so every run does, and a run of
as many steps as there are units leaves no unit ready.
-/

namespace Rollout.Graph

/-- The unit at this position can come next: it has not been scheduled, but all that it depends on
has. -/
def IsReady (g : Graph) (scheduled : List ℕ) (i : ℕ) : Prop :=
  i < g.size ∧ i ∉ scheduled ∧ ∀ j ∈ g.prerequisitesOf i, j ∈ scheduled

/-- How many dependencies of a unit have not been scheduled. -/
def missing (g : Graph) (scheduled : List ℕ) (i : ℕ) : ℕ :=
  (g.prerequisitesOf i).countP fun j => j ∉ scheduled

/-- A unit can come next when it has not been scheduled and misses nothing. -/
theorem isReady_iff_missing_eq_zero {g : Graph} {scheduled : List ℕ} {i : ℕ} :
    g.IsReady scheduled i ↔ i < g.size ∧ i ∉ scheduled ∧ g.missing scheduled i = 0 := by
  simp [IsReady, missing]

/-- A list without repetition counts an item that it holds once. -/
theorem countP_notMem_concat {l scheduled : List ℕ} (hl : l.Nodup) {i : ℕ} (hi : i ∉ scheduled) :
    l.countP (fun j => j ∉ scheduled) =
      l.countP (fun j => j ∉ scheduled ++ [i]) + if i ∈ l then 1 else 0 := by
  induction l with
  | nil => simp
  | cons j l ih =>
    obtain ⟨hj, hl⟩ := List.nodup_cons.mp hl
    rw [List.countP_cons, List.countP_cons, ih hl]
    by_cases hji : j = i
    · subst j
      simp [hi, hj]
    · have hkept : j ∉ scheduled ++ [i] ↔ j ∉ scheduled := by simp [hji]
      have hlater : i ∈ j :: l ↔ i ∈ l := by simp [Ne.symm hji]
      simp only [hkept, hlater]
      omega

/-- Scheduling a unit leaves each of its dependents with one missing unit less. -/
theorem missing_eq_missing_concat {g : Graph} {m : Manifest} (hg : g.Represents m)
    {scheduled : List ℕ} {i : ℕ} (hi : i ∉ scheduled) (k : ℕ) :
    g.missing scheduled k =
      g.missing (scheduled ++ [i]) k + if k ∈ g.dependentsOf i then 1 else 0 := by
  have hnodup : (g.prerequisitesOf k).Nodup :=
    (hg.ascending_prerequisitesOf k).imp (fun h => Nat.ne_of_lt h)
  have hmem : k ∈ g.dependentsOf i ↔ i ∈ g.prerequisitesOf k := by
    rw [hg.mem_dependentsOf, hg.mem_prerequisitesOf]
  simp only [missing, hmem]
  exact countP_notMem_concat hnodup hi

/-- What depends on a unit that can come next is another unit, and it misses something. -/
theorem IsReady.dependent {g : Graph} {m : Manifest} (hg : g.Represents m) {scheduled : List ℕ}
    {i k : ℕ} (hi : g.IsReady scheduled i) (hk : k ∈ g.dependentsOf i) :
    k < g.size ∧ k ≠ i ∧ 0 < g.missing scheduled k := by
  have hmissing := missing_eq_missing_concat hg hi.2.1 k
  rw [if_pos hk] at hmissing
  refine ⟨?_, fun hki => ?_, by omega⟩
  · obtain ⟨d, e, hd, -, -⟩ := (hg.mem_dependentsOf k i).mp hk
    rw [size, hg.manifest_eq]
    exact (List.getElem?_eq_some_iff.mp hd).1
  · subst k
    have hnone := (isReady_iff_missing_eq_zero.mp hi).2.2
    omega

/-- After a unit, the others that could come next can still do so, and so can its dependents that
missed nothing else. -/
theorem isReady_concat_iff {g : Graph} {m : Manifest} (hg : g.Represents m) {scheduled : List ℕ}
    {i : ℕ} (hi : g.IsReady scheduled i) (hnew : ∀ k ∈ g.dependentsOf i, k ∉ scheduled) (k : ℕ) :
    g.IsReady (scheduled ++ [i]) k ↔ (g.IsReady scheduled k ∧ k ≠ i) ∨
      (k ∈ g.dependentsOf i ∧ g.missing scheduled k ≤ 1) := by
  have hmissing := missing_eq_missing_concat hg hi.2.1 k
  have hmem : k ∉ scheduled ++ [i] ↔ k ∉ scheduled ∧ k ≠ i := by simp
  rw [isReady_iff_missing_eq_zero, isReady_iff_missing_eq_zero, hmem]
  by_cases hk : k ∈ g.dependentsOf i
  · obtain ⟨hsize, hki, hwaits⟩ := hi.dependent hg hk
    rw [if_pos hk] at hmissing
    simp only [hsize, hnew k hk, hki, hk, not_false_eq_true, true_and, ne_eq]
    omega
  · rw [if_neg hk, Nat.add_zero] at hmissing
    rw [hmissing]
    simp only [hk, false_and, or_false]
    tauto

/-- An inserted position joins those that are ready. -/
theorem mem_insertReady {i k : ℕ} {ready : List ℕ} :
    k ∈ insertReady i ready ↔ k = i ∨ k ∈ ready := by
  induction ready with
  | nil => simp [insertReady]
  | cons j js ih =>
    unfold insertReady
    split
    · simp
    · simp only [List.mem_cons, ih]
      tauto

/-- A position that was not ready yet is inserted in its place. -/
theorem pairwise_insertReady {i : ℕ} {ready : List ℕ} (hnew : i ∉ ready)
    (hascending : ready.Pairwise (· < ·)) : (insertReady i ready).Pairwise (· < ·) := by
  induction ready with
  | nil => simp [insertReady]
  | cons j js ih =>
    obtain ⟨hj, hjs⟩ := List.pairwise_cons.mp hascending
    obtain ⟨hij, hijs⟩ := not_or.mp (mt List.mem_cons.mpr hnew)
    unfold insertReady
    split
    · rename_i hlt
      refine List.pairwise_cons.mpr ⟨fun k hk => ?_, hascending⟩
      rcases List.mem_cons.mp hk with rfl | hk
      · exact hlt
      · exact Nat.lt_trans hlt (hj k hk)
    · refine List.pairwise_cons.mpr ⟨fun k hk => ?_, ih hijs hjs⟩
      rcases mem_insertReady.mp hk with rfl | hk
      · omega
      · exact hj k hk

namespace Schedule

/-- Releasing these positions one after the other leads from one schedule to the other. -/
structure Released (s t : Schedule) (positions : List ℕ) : Prop where
  scheduled_eq : t.scheduled = s.scheduled
  length_pending : t.pending.length = s.pending.length
  /-- Every released unit has one dependency less to wait for. -/
  pending_eq : ∀ k, t.pending.getD k 0 =
    if k ∈ positions then s.pending.getD k 0 - 1 else s.pending.getD k 0
  /-- A released unit that waits for nothing more becomes ready. -/
  mem_ready : ∀ k, k ∈ t.ready ↔ k ∈ s.ready ∨ (k ∈ positions ∧ s.pending.getD k 0 ≤ 1)
  ascending_ready : (∀ k ∈ positions, k ∉ s.ready) → s.ready.Pairwise (· < ·) →
    t.ready.Pairwise (· < ·)

/-- A released unit becomes ready when it waited for at most one dependency. -/
theorem mem_ready_release {s : Schedule} {i k : ℕ} :
    k ∈ (s.release i).ready ↔ k ∈ s.ready ∨ (k = i ∧ s.pending.getD k 0 ≤ 1) := by
  simp only [release, Nat.sub_eq_zero_iff_le]
  split
  · rename_i hfree
    rw [mem_insertReady, or_comm]
    exact or_congr_right ⟨fun h => ⟨h, h ▸ hfree⟩, fun h => h.1⟩
  · rename_i hwaits
    exact ⟨Or.inl, fun h => h.resolve_right fun ⟨hk, hfree⟩ => hwaits (hk ▸ hfree)⟩

/-- Releasing a unit that was not ready keeps the ready list ascending. -/
theorem ascending_ready_release {s : Schedule} {i : ℕ} (hnew : i ∉ s.ready)
    (hascending : s.ready.Pairwise (· < ·)) : (s.release i).ready.Pairwise (· < ·) := by
  simp only [release]
  split
  · exact pairwise_insertReady hnew hascending
  · exact hascending

/-- A released unit waits for one dependency less. -/
theorem pending_release {s : Schedule} {i : ℕ} (hi : i < s.pending.length) (k : ℕ) :
    (s.release i).pending.getD k 0 =
      if k = i then s.pending.getD k 0 - 1 else s.pending.getD k 0 := by
  by_cases hk : k = i
  · subst k
    simp [release, List.getD_eq_getElem?_getD, hi]
  · simp [release, List.getD_eq_getElem?_getD, hk, Ne.symm hk]

/-- Releasing distinct positions one after the other. -/
theorem released_foldl_release {s : Schedule} {positions : List ℕ} (hnodup : positions.Nodup)
    (hlt : ∀ i ∈ positions, i < s.pending.length) :
    s.Released (positions.foldl release s) positions := by
  induction positions generalizing s with
  | nil => constructor <;> simp
  | cons i positions ih =>
    obtain ⟨hi, hnodup⟩ := List.nodup_cons.mp hnodup
    have hpending (k : ℕ) := pending_release (hlt i List.mem_cons_self) k
    have hlength : (s.release i).pending.length = s.pending.length := by simp [release]
    have hrest := ih (s := s.release i) hnodup
      (fun k hk => by rw [hlength]; exact hlt k (List.mem_cons_of_mem _ hk))
    rw [List.foldl_cons]
    constructor
    · rw [hrest.scheduled_eq]
      rfl
    · rw [hrest.length_pending, hlength]
    · intro k
      rw [hrest.pending_eq, hpending]
      by_cases hk : k = i
      · subst k
        simp [hi]
      · simp [hk]
    · intro k
      rw [hrest.mem_ready, hpending, mem_ready_release]
      by_cases hk : k = i
      · subst k
        simp [hi]
      · simp [hk]
    · intro hnew hascending
      have hfirst := ascending_ready_release (hnew i List.mem_cons_self) hascending
      refine hrest.ascending_ready (fun k hk hready => ?_) hfirst
      rcases mem_ready_release.mp hready with hold | ⟨rfl, -⟩
      · exact hnew k (List.mem_cons_of_mem _ hk) hold
      · exact hi hk

/-- The invariant of a schedule under construction. -/
structure Valid (g : Graph) (s : Schedule) : Prop where
  length_pending : s.pending.length = g.size
  /-- The counts tell how many dependencies of each unit are missing. -/
  pending_eq : ∀ i, s.pending.getD i 0 = g.missing s.scheduled i
  /-- The ready list holds the units that can come next. -/
  mem_ready : ∀ i, i ∈ s.ready ↔ g.IsReady s.scheduled i
  /-- The units that can come next stand in the order of declaration, each of them once. -/
  ascending_ready : s.ready.Pairwise (· < ·)
  nodup_scheduled : s.scheduled.Nodup
  /-- Every unit could come next when it was scheduled. -/
  each_ready : EachAfter g.IsReady s.scheduled
  /-- No unit declared before a scheduled one could have come in its place. -/
  each_least : EachAfter (fun before i => ∀ k, g.IsReady before k → i ≤ k) s.scheduled

/-- The invariant holds before anything is scheduled. -/
theorem valid_start {g : Graph} {m : Manifest} (hg : g.Represents m) : Valid g (start g) := by
  have hpending (i : ℕ) : (start g).pending.getD i 0 = g.missing [] i := by
    simp only [start, missing, prerequisitesOf, List.getD_eq_getElem?_getD, List.getElem?_map]
    cases g.prerequisites[i]? <;> simp
  constructor
  · simp [start, hg.length_prerequisites, size, hg.manifest_eq]
  · exact hpending
  · intro i
    have hready : i ∈ (start g).ready ↔ i < g.size ∧ (start g).pending.getD i 0 = 0 := by
      simp [start]
    rw [hready, hpending, isReady_iff_missing_eq_zero]
    simp [start]
  · exact List.Pairwise.filter _ List.pairwise_lt_range
  · exact List.nodup_nil
  · exact eachAfter_nil _
  · exact eachAfter_nil _

/-- Whatever a scheduled unit depends on has been scheduled. -/
theorem Valid.mem_scheduled_of_prerequisite {g : Graph} {s : Schedule} (hs : Valid g s) {i j : ℕ}
    (hi : i ∈ s.scheduled) (hj : j ∈ g.prerequisitesOf i) : j ∈ s.scheduled := by
  obtain ⟨before, after, hsplit⟩ := List.append_of_mem hi
  have hready := hs.each_ready before i after hsplit
  rw [hsplit]
  exact List.mem_append_left _ (hready.2.2 j hj)

/-- A unit that has been scheduled is no dependent of one that can come next. -/
theorem Valid.notMem_scheduled_of_dependent {g : Graph} {m : Manifest} (hg : g.Represents m)
    {s : Schedule} (hs : Valid g s) {i k : ℕ} (hi : g.IsReady s.scheduled i)
    (hk : k ∈ g.dependentsOf i) : k ∉ s.scheduled := by
  intro hscheduled
  have hprerequisite : i ∈ g.prerequisitesOf k := by
    rw [hg.mem_prerequisitesOf, ← hg.mem_dependentsOf]
    exact hk
  exact hi.2.1 (hs.mem_scheduled_of_prerequisite hscheduled hprerequisite)

/-- Of the units that can come next, the first is the least one, and the rest are the others. -/
theorem Valid.ready_cons {g : Graph} {s : Schedule} (hs : Valid g s) {i : ℕ} {ready : List ℕ}
    (hready : s.ready = i :: ready) :
    g.IsReady s.scheduled i ∧ (∀ k, g.IsReady s.scheduled k → i ≤ k) ∧
      ∀ k, k ∈ ready ↔ g.IsReady s.scheduled k ∧ k ≠ i := by
  have hascending := hs.ascending_ready
  rw [hready, List.pairwise_cons] at hascending
  have hmem (k : ℕ) : g.IsReady s.scheduled k ↔ k = i ∨ k ∈ ready := by
    rw [← hs.mem_ready, hready, List.mem_cons]
  refine ⟨(hmem i).mpr (Or.inl rfl), ?_, ?_⟩
  · intro k hk
    rcases (hmem k).mp hk with rfl | hk
    · exact Nat.le_refl k
    · exact Nat.le_of_lt (hascending.1 k hk)
  · intro k
    rw [hmem]
    constructor
    · intro hk
      exact ⟨Or.inr hk, Nat.ne_of_gt (hascending.1 k hk)⟩
    · rintro ⟨hor, hne⟩
      exact hor.resolve_left hne

/-- A step takes the first ready unit and releases its dependents. -/
theorem Valid.released_step {g : Graph} {m : Manifest} (hg : g.Represents m) {s : Schedule}
    (hs : Valid g s) {i : ℕ} {ready : List ℕ} (hready : s.ready = i :: ready) :
    Released ⟨s.pending, ready, s.scheduled ++ [i]⟩ (s.step g) (g.dependentsOf i) := by
  have hi := (hs.ready_cons hready).1
  have hstep : s.step g =
      (g.dependentsOf i).foldl release ⟨s.pending, ready, s.scheduled ++ [i]⟩ := by
    simp only [Schedule.step, hready]
  rw [hstep]
  apply released_foldl_release
  · exact (hg.ascending_dependentsOf i).imp fun h => Nat.ne_of_lt h
  · intro k hk
    rw [hs.length_pending]
    exact (hi.dependent hg hk).1

/-- A step schedules the first ready unit and keeps the invariant. -/
theorem Valid.step {g : Graph} {m : Manifest} (hg : g.Represents m) {s : Schedule}
    (hs : Valid g s) {i : ℕ} {ready : List ℕ} (hready : s.ready = i :: ready) :
    (s.step g).scheduled = s.scheduled ++ [i] ∧ Valid g (s.step g) := by
  obtain ⟨hi, hleast, hothers⟩ := hs.ready_cons hready
  have hreleased := hs.released_step hg hready
  have hscheduled : (s.step g).scheduled = s.scheduled ++ [i] := hreleased.scheduled_eq
  refine ⟨hscheduled, ?_⟩
  constructor
  · rw [hreleased.length_pending]
    exact hs.length_pending
  · intro k
    rw [hreleased.pending_eq, hscheduled, hs.pending_eq, missing_eq_missing_concat hg hi.2.1 k]
    split
    · omega
    · omega
  · intro k
    rw [hreleased.mem_ready, hscheduled, hs.pending_eq, hothers]
    exact (isReady_concat_iff hg hi
      (fun k hk => hs.notMem_scheduled_of_dependent hg hi hk) k).symm
  · have hascending := hs.ascending_ready
    rw [hready, List.pairwise_cons] at hascending
    refine hreleased.ascending_ready (fun k hk hkready => ?_) hascending.2
    have hnone := isReady_iff_missing_eq_zero.mp ((hothers k).mp hkready).1
    have hwaits := (hi.dependent hg hk).2.2
    omega
  · rw [hscheduled, ← List.concat_eq_append, List.nodup_concat]
    exact ⟨hi.2.1, hs.nodup_scheduled⟩
  · rw [hscheduled]
    exact eachAfter_concat.mpr ⟨hs.each_ready, hi⟩
  · rw [hscheduled]
    exact eachAfter_concat.mpr ⟨hs.each_least, hleast⟩

/-- Every run keeps the invariant. -/
theorem Valid.run {g : Graph} {m : Manifest} (hg : g.Represents m) {s : Schedule}
    (hs : Valid g s) (steps : ℕ) : Valid g (run g steps s) := by
  induction steps generalizing s with
  | zero => exact hs
  | succ steps ih =>
    apply ih
    cases hready : s.ready with
    | nil => simpa only [Schedule.step, hready] using hs
    | cons i ready => exact (hs.step hg hready).2

/-- A run goes nowhere when no unit is ready. -/
theorem run_of_ready_eq_nil {g : Graph} {s : Schedule} (hnil : s.ready = []) (steps : ℕ) :
    run g steps s = s := by
  induction steps with
  | zero => rfl
  | succ steps ih =>
    have hstay : s.step g = s := by simp only [Schedule.step, hnil]
    rw [run, hstay, ih]

/-- A run stops early only when no unit is ready, and it schedules a unit in every step before. -/
theorem Valid.ready_run {g : Graph} {m : Manifest} (hg : g.Represents m) {s : Schedule}
    (hs : Valid g s) (steps : ℕ) :
    (Schedule.run g steps s).ready = [] ∨
      (Schedule.run g steps s).scheduled.length = s.scheduled.length + steps := by
  induction steps generalizing s with
  | zero => exact Or.inr rfl
  | succ steps ih =>
    cases hready : s.ready with
    | nil =>
      left
      rw [run_of_ready_eq_nil hready, hready]
    | cons i ready =>
      obtain ⟨hscheduled, hstep⟩ := hs.step hg hready
      rcases ih hstep with hnil | hlength
      · exact Or.inl hnil
      · right
        rw [Schedule.run, hlength, hscheduled, List.length_append, List.length_singleton]
        omega

/-- A schedule of as many units as there are holds every one of them. -/
theorem Valid.perm_range {g : Graph} {s : Schedule} (hs : Valid g s)
    (hlength : g.size ≤ s.scheduled.length) : s.scheduled.Perm (List.range g.size) := by
  have hsubset : s.scheduled ⊆ List.range g.size := by
    intro i hi
    obtain ⟨before, after, hsplit⟩ := List.append_of_mem hi
    exact List.mem_range.mpr (hs.each_ready before i after hsplit).1
  apply (List.subperm_of_subset hs.nodup_scheduled hsubset).perm_of_length_le
  rwa [List.length_range]

end Schedule

section Finished

variable {g : Graph} {m : Manifest}

/-- The finished schedule satisfies the invariant. -/
theorem valid_schedule (hg : g.Represents m) : Schedule.Valid g g.schedule :=
  (Schedule.valid_start hg).run hg g.size

/-- When the schedule is finished, no unit can come next. -/
theorem not_isReady_schedule (hg : g.Represents m) (i : ℕ) :
    ¬ g.IsReady g.schedule.scheduled i := by
  intro hi
  have hvalid := valid_schedule hg
  rcases (Schedule.valid_start hg).ready_run hg g.size with hnil | hlength
  · have hmem : i ∈ g.schedule.ready := (hvalid.mem_ready i).mpr hi
    rw [schedule, hnil] at hmem
    cases hmem
  · have hfull := hvalid.perm_range (by rw [schedule, hlength]; exact Nat.le_add_left _ _)
    exact hi.2.1 (hfull.mem_iff.mpr (List.mem_range.mpr hi.1))

/-- A unit is scheduled in the end when all that it depends on is. -/
theorem mem_scheduled_iff (hg : g.Represents m) {i : ℕ} (hi : i < g.size) :
    i ∈ g.schedule.scheduled ↔ ∀ j ∈ g.prerequisitesOf i, j ∈ g.schedule.scheduled := by
  constructor
  · intro hmem j hj
    exact (valid_schedule hg).mem_scheduled_of_prerequisite hmem hj
  · intro hall
    by_contra hmem
    exact not_isReady_schedule hg i ⟨hi, hmem, hall⟩

/-- A unit waits in the end when it has not been scheduled. -/
theorem pending_schedule_pos_iff (hg : g.Represents m) {i : ℕ} (hi : i < g.size) :
    0 < g.schedule.pending.getD i 0 ↔ i ∉ g.schedule.scheduled := by
  have hzero : g.missing g.schedule.scheduled i = 0 ↔ i ∈ g.schedule.scheduled := by
    rw [mem_scheduled_iff hg hi]
    simp [missing]
  rw [(valid_schedule hg).pending_eq, Nat.pos_iff_ne_zero, Ne, hzero]

/-- The positions are ordered when all units have been scheduled. -/
theorem orderedPositions_eq_ok (hg : g.Represents m) {order : List ℕ} :
    g.orderedPositions = .ok order ↔
      g.schedule.scheduled = order ∧ order.Perm (List.range g.size) := by
  unfold orderedPositions
  dsimp only
  split
  · rename_i hshort
    simp only [reduceCtorEq, false_iff, not_and]
    rintro rfl hperm
    have hlength := hperm.length_eq
    rw [List.length_range] at hlength
    omega
  · rename_i hfull
    simp only [Except.ok.injEq, iff_self_and]
    rintro rfl
    exact (valid_schedule hg).perm_range (by omega)

/-- Otherwise the units that have not been scheduled are reported. -/
theorem orderedPositions_eq_error (hg : g.Represents m) {e : GraphError} :
    g.orderedPositions = .error e ↔ (∃ i < g.size, i ∉ g.schedule.scheduled) ∧
      e = .cycle (g.namesAt ((List.range g.size).filter fun i => i ∉ g.schedule.scheduled)) := by
  have hwaiting : ((List.range g.size).filter fun i => 0 < g.schedule.pending.getD i 0) =
      (List.range g.size).filter fun i => i ∉ g.schedule.scheduled := by
    apply List.filter_congr
    intro i hi
    exact decide_eq_decide.mpr (pending_schedule_pos_iff hg (List.mem_range.mp hi))
  have hshort : g.schedule.scheduled.length < g.size ↔
      ∃ i < g.size, i ∉ g.schedule.scheduled := by
    constructor
    · intro hlt
      by_contra hall
      push Not at hall
      have hsubset : List.range g.size ⊆ g.schedule.scheduled := fun i hi =>
        hall i (List.mem_range.mp hi)
      have hle := (List.subperm_of_subset List.nodup_range hsubset).length_le
      rw [List.length_range] at hle
      omega
    · rintro ⟨i, hi, hmem⟩
      by_contra hge
      have hperm := (valid_schedule hg).perm_range (Nat.not_lt.mp hge)
      exact hmem (hperm.mem_iff.mpr (List.mem_range.mpr hi))
  unfold orderedPositions
  dsimp only
  rw [hwaiting]
  split
  · rename_i hlt
    simp [hshort.mp hlt, eq_comm]
  · rename_i hge
    simp [mt hshort.mpr hge]

end Finished

end Rollout.Graph
