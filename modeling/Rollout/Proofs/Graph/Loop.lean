import Rollout.Proofs.Graph.Construction

/-!
# The loop that schedules units

The guarded loop does what the schedule does, because the count of a unit is positive whenever one
of its missing requirements is scheduled. So its counts never fall below zero, its ready list holds
each unit that can come next exactly once, and it ends after at most as many steps as there are
units.
-/

namespace Rollout.Graph

variable {g : Graph} {m : Manifest}

/-- A position is added to the ready list. -/
theorem perm_insertReady (i : ℕ) (ready : List ℕ) : (insertReady i ready).Perm (i :: ready) := by
  induction ready with
  | nil => exact List.Perm.refl _
  | cons j js ih =>
    unfold insertReady
    split
    · exact List.Perm.refl _
    · exact (ih.cons j).trans (List.Perm.swap i j js)

namespace Schedule

/-- Running for longer continues the run. -/
theorem run_add (j k : ℕ) (s : Schedule) : run g (j + k) s = run g k (run g j s) := by
  induction j generalizing s with
  | zero => rw [Nat.zero_add, run]
  | succ j ih => rw [Nat.succ_add, run, run, ih]

/-- When the schedule is finished, no unit is ready. -/
theorem ready_schedule (hg : g.Represents m) : g.schedule.ready = [] := by
  refine List.eq_nil_iff_forall_not_mem.mpr fun i hi => ?_
  exact not_isReady_schedule hg i (((valid_schedule hg).mem_ready i).mp hi)

/-- A run finds no unit ready for the first time after at most as many steps as there are units, and
it has finished the schedule then. -/
theorem exists_run_eq_schedule (hg : g.Represents m) : ∃ k ≤ g.size,
    run g k (start g) = g.schedule ∧ ∀ j < k, (run g j (start g)).ready ≠ [] := by
  have hends : ∃ k, (run g k (start g)).ready = [] := ⟨g.size, ready_schedule hg⟩
  refine ⟨Nat.find hends, Nat.find_min' hends (ready_schedule hg), ?_, fun j => Nat.find_min hends⟩
  have hle : Nat.find hends ≤ g.size := Nat.find_min' hends (ready_schedule hg)
  obtain ⟨rest, hrest⟩ := Nat.exists_eq_add_of_le hle
  rw [schedule, hrest, run_add, run_of_ready_eq_nil (Nat.find_spec hends)]

end Schedule

namespace Loop

/-- Whatever was put into the ready list has been scheduled or is still ready. -/
def Accounts (s : Loop) : Prop :=
  s.pushed.Perm (s.scheduled ++ s.ready)

/-- The guarded outcome is a loop with this schedule, and it accounts for what was pushed if `s`
does. -/
structure Follows (s : Loop) (outcome : Except Fault Loop) (next : Schedule) (t : Loop) : Prop where
  outcome_eq : outcome = .ok t
  toSchedule_eq : t.toSchedule = next
  accounts : s.Accounts → t.Accounts

/-- Putting one more unit into the ready list is accounted for. -/
theorem Accounts.push {s : Loop} (hs : s.Accounts) (i : ℕ) : (s.push i).Accounts := by
  have hready : (s.scheduled ++ insertReady i s.ready).Perm (s.scheduled ++ i :: s.ready) :=
    (perm_insertReady i s.ready).append_left _
  have hpushed : (s.pushed ++ [i]).Perm (i :: s.pushed) := List.perm_append_singleton i s.pushed
  exact hpushed.trans ((hs.cons i).trans (List.perm_middle.symm.trans hready.symm))

/-- A unit that waits for something can be released. -/
theorem exists_follows_release {s : Loop} {i : ℕ} (hi : i < s.pending.length)
    (hwaits : 0 < s.pending.getD i 0) :
    ∃ t, s.Follows (s.release i) (s.toSchedule.release i) t := by
  have hget : s.pending[i]? = some (s.pending.getD i 0) := by
    simp [List.getD_eq_getElem?_getD, List.getElem?_eq_getElem hi]
  unfold release Schedule.release
  rw [hget]
  cases hcount : s.pending.getD i 0 with
  | zero => omega
  | succ missing =>
    cases missing with
    | zero =>
      refine ⟨_, rfl, rfl, fun hs => ?_⟩
      exact Accounts.push (s := { s with pending := s.pending.set i 0 }) hs i
    | succ missing => exact ⟨_, rfl, by simp, fun hs => hs⟩

/-- Distinct units that wait for something can be released one after the other. -/
theorem exists_follows_foldlM_release {s : Loop} {positions : List ℕ} (hnodup : positions.Nodup)
    (hlt : ∀ i ∈ positions, i < s.pending.length)
    (hwait : ∀ i ∈ positions, 0 < s.pending.getD i 0) :
    ∃ t, s.Follows (positions.foldlM release s) (positions.foldl Schedule.release s.toSchedule) t := by
  induction positions generalizing s with
  | nil => exact ⟨s, rfl, rfl, fun hs => hs⟩
  | cons i positions ih =>
    obtain ⟨hnew, hnodup⟩ := List.nodup_cons.mp hnodup
    rw [List.forall_mem_cons] at hlt hwait
    obtain ⟨next, hnext, hschedule, haccounts⟩ := exists_follows_release hlt.1 hwait.1
    have hlength : next.pending.length = s.pending.length := by
      rw [hschedule]
      simp [Schedule.release]
    have hcounts (k : ℕ) (hk : k ∈ positions) : next.pending.getD k 0 = s.pending.getD k 0 := by
      have hne : k ≠ i := fun h => hnew (h ▸ hk)
      rw [hschedule, Schedule.pending_release hlt.1, if_neg hne]
    obtain ⟨t, ht, hrest, haccounts'⟩ := ih (s := next) hnodup
      (fun k hk => by rw [hlength]; exact hlt.2 k hk)
      (fun k hk => by rw [hcounts k hk]; exact hwait.2 k hk)
    refine ⟨t, ?_, ?_, fun hs => haccounts' (haccounts hs)⟩
    · rw [List.foldlM_cons, hnext]
      exact ht
    · rw [hrest, hschedule, List.foldl_cons]

/-- A step of the loop is the step of its schedule. -/
theorem exists_follows_step (hg : g.Represents m) (hmirrors : g.Mirrors m) {s : Loop}
    (hs : Schedule.Valid g s.toSchedule) :
    ∃ t, s.Follows (s.step g) (s.toSchedule.step g) t := by
  unfold step Schedule.step
  cases hready : s.ready with
  | nil => exact ⟨s, rfl, rfl, fun h => h⟩
  | cons i ready =>
    obtain ⟨hi, -, -⟩ := hs.ready_cons hready
    obtain ⟨d, hunit⟩ : ∃ d, itemAt g.manifest.units i = .ok d := by
      have hlt : i < g.manifest.units.length := hi.1
      simp [itemAt, List.getElem?_eq_getElem hlt]
    have hdependents : itemAt g.dependents i = .ok (g.dependentsOf i) := by
      have hlt : i < g.dependents.length := by
        rw [hmirrors.length_dependents, ← hg.manifest_eq]
        exact hi.1
      simp [itemAt, dependentsOf, List.getD_eq_getElem?_getD, List.getElem?_eq_getElem hlt]
    have hnodup : (g.dependentsOf i).Nodup := (hg.ascending_dependentsOf i).nodup
    let taken : Loop := { s with ready, scheduled := s.scheduled ++ [i] }
    obtain ⟨t, ht, hschedule, haccounts⟩ := exists_follows_foldlM_release (s := taken) hnodup
      (fun k hk => by
        change k < s.pending.length
        rw [hs.length_pending]
        exact (hi.dependent hg hk).1)
      (fun k hk => by
        change 0 < s.pending.getD k 0
        rw [hs.pending_eq]
        exact (hi.dependent hg hk).2.2)
    refine ⟨t, ?_, hschedule, fun h => haccounts ?_⟩
    · simp only [hunit, hdependents]
      exact ht
    · change s.pushed.Perm (s.scheduled ++ [i] ++ ready)
      rw [List.append_assoc, List.singleton_append, ← hready]
      exact h

/-- A run of the loop is the run of its schedule. -/
theorem exists_follows_run (hg : g.Represents m) (hmirrors : g.Mirrors m) {s : Loop}
    (hs : Schedule.Valid g s.toSchedule) (k : ℕ) :
    ∃ t, s.Follows (run g k s) (Schedule.run g k s.toSchedule) t := by
  induction k generalizing s with
  | zero => exact ⟨s, rfl, rfl, fun h => h⟩
  | succ k ih =>
    obtain ⟨next, hnext, hschedule, haccounts⟩ := exists_follows_step hg hmirrors hs
    have hvalid : Schedule.Valid g next.toSchedule := by
      rw [hschedule]
      exact hs.run hg 1
    obtain ⟨t, ht, hrest, haccounts'⟩ := ih hvalid
    refine ⟨t, ?_, ?_, fun h => haccounts' (haccounts h)⟩
    · rw [run, hnext]
      exact ht
    · rw [hrest, hschedule, Schedule.run]

/-- What holds of the loop before each of its steps. -/
structure Sound (g : Graph) (s : Loop) : Prop where
  /-- The counts tell how many requirements of each unit have not been scheduled. -/
  pending_eq : ∀ i < g.size, s.pending[i]? = some (g.missing s.scheduled i)
  /-- The ready list holds the units that have not been scheduled and miss nothing. -/
  mem_ready : ∀ i, i ∈ s.ready ↔ i < g.size ∧ i ∉ s.scheduled ∧ s.pending[i]? = some 0
  nodup_ready : s.ready.Nodup
  nodup_scheduled : s.scheduled.Nodup
  /-- No unit is put into the ready list twice. -/
  nodup_pushed : s.pushed.Nodup
  /-- What was put into the ready list has been scheduled or is still ready. -/
  pushed_perm : s.pushed.Perm (s.scheduled ++ s.ready)

/-- A loop is sound when its schedule is valid and it accounts for what was pushed. -/
theorem Accounts.sound {s : Loop} (haccounts : s.Accounts)
    (hs : Schedule.Valid g s.toSchedule) : s.Sound g := by
  have hpending : ∀ i < g.size, s.pending[i]? = some (g.missing s.scheduled i) := by
    intro i hi
    rw [← hs.length_pending] at hi
    rw [← hs.pending_eq]
    simp [List.getD_eq_getElem?_getD, List.getElem?_eq_getElem hi]
  have hready (i : ℕ) : i ∈ s.ready ↔ i < g.size ∧ i ∉ s.scheduled ∧ s.pending[i]? = some 0 := by
    rw [hs.mem_ready, isReady_iff_missing_eq_zero]
    refine and_congr_right fun hi => and_congr_right fun _ => ?_
    rw [hpending i hi, Option.some.injEq]
  have hdistinct : (s.scheduled ++ s.ready).Nodup := by
    rw [List.nodup_append']
    refine ⟨hs.nodup_scheduled, hs.ascending_ready.nodup, fun i hscheduled hi => ?_⟩
    exact ((hready i).mp hi).2.1 hscheduled
  exact {
    pending_eq := hpending
    mem_ready := hready
    nodup_ready := hs.ascending_ready.nodup
    nodup_scheduled := hs.nodup_scheduled
    nodup_pushed := haccounts.nodup_iff.mpr hdistinct
    pushed_perm := haccounts }

/-- For every graph of a manifest, with or without cycles, the loop can take any number of steps:
none of its checks fails, so no count is lowered below zero. Before each step the counts tell how
many requirements of each unit have not been scheduled, the ready list holds the units that have not
been scheduled and miss nothing, each of them once, and no unit was scheduled or put into the ready
list twice. After at most as many steps as there are units nothing is ready for the first time, and
the schedule is finished then. -/
theorem run_sound (hok : ofManifest m = .ok g) :
    (∀ k, ∃ s, run g k (start g) = .ok s ∧ s.Sound g) ∧
    ∃ k ≤ g.size, ∃ s, run g k (start g) = .ok s ∧ s.ready = [] ∧ s.toSchedule = g.schedule ∧
      ∀ j < k, ∀ t, run g j (start g) = .ok t → t.ready ≠ [] := by
  have hg := represents_of_ofManifest hok
  have hstart := Schedule.valid_start hg
  have hruns (k : ℕ) : ∃ s, run g k (start g) = .ok s ∧
      s.toSchedule = Schedule.run g k (Schedule.start g) ∧ s.Accounts := by
    obtain ⟨s, hs, hschedule, haccounts⟩ :=
      exists_follows_run hg (mirrors_of_ofManifest hok) (s := start g) hstart k
    exact ⟨s, hs, hschedule, haccounts (List.Perm.refl _)⟩
  constructor
  · intro k
    obtain ⟨s, hs, hschedule, haccounts⟩ := hruns k
    exact ⟨s, hs, haccounts.sound (hschedule ▸ hstart.run hg k)⟩
  · obtain ⟨k, hk, hends, hgoes⟩ := Schedule.exists_run_eq_schedule hg
    obtain ⟨s, hs, hschedule, -⟩ := hruns k
    rw [hends] at hschedule
    refine ⟨k, hk, s, hs, ?_, hschedule, fun j hj t ht => ?_⟩
    · rw [hschedule]
      exact Schedule.ready_schedule hg
    · obtain ⟨t', ht', hschedule', -⟩ := hruns j
      obtain rfl : t = t' := Except.ok.inj (ht.symm.trans ht')
      rw [hschedule']
      exact hgoes j hj

/-- A unit that requires itself, one that requires it, a library that two units need, one of them
both for linking and as an argument. -/
def selfish : Manifest :=
  ⟨[{ name := "Self", links := ["Self"] }, { name := "Tail", args := [.unit "Self", .unit "Lib"] },
    { name := "App", links := ["Lib"], args := [.unit "Lib"] }, { name := "Lib" }]⟩

/-- The library and the unit that needs nothing else are scheduled, and then nothing is ready. -/
theorem run_sound_of_selfish :
    ∃ g, ofManifest selfish = .ok g ∧ (∀ k, ∃ s, run g k (start g) = .ok s ∧ s.Sound g) ∧
      ∃ s, run g 2 (start g) = .ok s ∧ s.pending = [1, 1, 0, 0] ∧ s.ready = [] ∧
        s.scheduled = [3, 2] ∧ s.pushed = [3, 2] ∧ s.toSchedule = g.schedule := by
  obtain ⟨g, hok, s, hrun, hpending, hready, hscheduled, hpushed, hschedule⟩ :
      ∃ g, ofManifest selfish = .ok g ∧ ∃ s, run g 2 (start g) = .ok s ∧
        s.pending = [1, 1, 0, 0] ∧ s.ready = [] ∧ s.scheduled = [3, 2] ∧ s.pushed = [3, 2] ∧
        s.toSchedule = g.schedule :=
    ⟨_, rfl, _, rfl, rfl, rfl, rfl, rfl, rfl⟩
  exact ⟨g, hok, (run_sound hok).1, s, hrun, hpending, hready, hscheduled, hpushed, hschedule⟩

end Loop

end Rollout.Graph
