import Rollout.Proofs.Session.Saved

/-!
# Failed writes

A session takes a handle before it writes its file. If the write fails, the handle stays, and since
every write is one of the whole session, the next one that works carries the handle to the file. So
what a file holds after such a write does not depend on which writes before it have failed.
-/

namespace Rollout

namespace Handle

variable {handles : List Handle} {name : String}

/-- The handles without those of units that have one before. -/
def firstOfEach : List Handle → List Handle
  | [] => []
  | handle :: handles => handle :: (firstOfEach handles).filter (·.name != handle.name)

/-- Every unit keeps a handle. -/
theorem mem_names_firstOfEach :
    name ∈ (firstOfEach handles).map (·.name) ↔ name ∈ handles.map (·.name) := by
  induction handles with
  | nil => exact Iff.rfl
  | cons handle handles ih =>
    rw [firstOfEach, List.map_cons, List.map_cons, List.mem_cons, List.mem_cons, ← ih]
    by_cases hname : name = handle.name
    · simp [hname]
    · simp only [hname, false_or, List.mem_map, List.mem_filter, bne_iff_ne]
      constructor
      · rintro ⟨h, ⟨hmem, -⟩, hsame⟩
        exact ⟨h, hmem, hsame⟩
      · rintro ⟨h, hmem, rfl⟩
        exact ⟨h, ⟨hmem, hname⟩, rfl⟩

/-- Handles of different units are all kept. -/
theorem firstOfEach_of_nodup (hnodup : (handles.map (·.name)).Nodup) :
    firstOfEach handles = handles := by
  induction handles with
  | nil => rfl
  | cons handle handles ih =>
    rw [List.map_cons, List.nodup_cons] at hnodup
    rw [firstOfEach, ih hnodup.2, List.filter_eq_self.mpr]
    intro h hmem
    exact bne_iff_ne.mpr fun hname => hnodup.1 (hname ▸ List.mem_map_of_mem hmem)

/-- One more handle is kept unless its unit has one before. -/
theorem firstOfEach_concat (handles : List Handle) (handle : Handle) :
    firstOfEach (handles ++ [handle]) =
      if handle.name ∈ handles.map (·.name) then firstOfEach handles
      else firstOfEach handles ++ [handle] := by
  induction handles with
  | nil => rfl
  | cons first handles ih =>
    rw [List.cons_append, firstOfEach, firstOfEach, ih, List.map_cons]
    by_cases hmem : handle.name ∈ handles.map (·.name)
    · rw [if_pos hmem, if_pos (List.mem_cons_of_mem _ hmem)]
    · rw [if_neg hmem, List.filter_append]
      by_cases hname : handle.name = first.name
      · simp [hname]
      · simp [hname, hmem]

end Handle

/-- A call that records a handle, with the disk as the call finds it. -/
structure Recording where
  disk : Disk
  handle : Handle

namespace Session

variable {s : Session} {path : String} {handle : Handle}

/-- Record handles one after the other, whatever becomes of the file. -/
def recordAll (s : Session) (calls : List Recording) : Session :=
  calls.foldl (fun s call => (s.record call.disk call.handle).session) s

/-- A session contains the units that its handles name. -/
theorem contains_iff_mem_names {name : String} :
    s.contains name ↔ name ∈ s.handles.map (·.name) := by
  simp [contains]

/-- One more call records one more handle. -/
theorem recordAll_concat (s : Session) (calls : List Recording) (call : Recording) :
    s.recordAll (calls ++ [call]) =
      ((s.recordAll calls).record call.disk call.handle).session := by
  rw [recordAll, List.foldl_append]
  rfl

/-- Recording handles leads from a session that can be reached to one that can be reached. -/
theorem Reachable.recordAll (hs : s.Reachable) (calls : List Recording) :
    (s.recordAll calls).Reachable := by
  induction calls using List.reverseRecOn with
  | nil => exact hs
  | append_singleton calls call ih =>
    rw [recordAll_concat]
    exact ih.recorded call.disk call.handle

/-- After any calls a session holds the first handle of each unit, on whatever disks the calls were
made. -/
theorem recordAll_eq (hnodup : (s.handles.map (·.name)).Nodup) (calls : List Recording) :
    s.recordAll calls =
      { s with handles := Handle.firstOfEach (s.handles ++ calls.map (·.handle)) } := by
  induction calls using List.reverseRecOn with
  | nil =>
    rw [List.map_nil, List.append_nil, Handle.firstOfEach_of_nodup hnodup]
    rfl
  | append_singleton calls call ih =>
    rw [recordAll_concat, session_record, ih, List.map_append, ← List.append_assoc,
      List.map_singleton, Handle.firstOfEach_concat]
    simp only [contains_iff_mem_names, Handle.mem_names_firstOfEach]
    split
    · rfl
    · rfl

/-- The handle of a unit that is present is refused, and nothing is written. -/
theorem record_of_contains (hcontains : s.contains handle.name) (disk : Disk) :
    s.record disk handle = ⟨s, disk, .error (.alreadyRecorded handle.name)⟩ := by
  simp only [record, insert, if_pos hcontains]

/-- A handle is refused exactly when its unit is present. -/
theorem outcome_eq_alreadyRecorded {disk : Disk} {unit : String} :
    (s.record disk handle).outcome = .error (.alreadyRecorded unit) ↔
      unit = handle.name ∧ s.contains handle.name := by
  by_cases hcontains : s.contains handle.name
  · simp [record_of_contains hcontains, hcontains, eq_comm]
  · rw [record_of_new hcontains, map_eq_error]
    refine iff_of_false (fun herror => ?_) fun h => hcontains h.2
    obtain ⟨_, _, hio⟩ := flush_eq_error herror
    cases hio

/-- A new handle is appended, and the session with it is written to its file. -/
theorem record_of_file (hfile : s.file? = some path) (hnew : ¬ s.contains handle.name)
    (disk : Disk) :
    s.record disk handle =
      ⟨s.holding handle, (disk.write path (utf8 (s.holding handle).fileText.toList)).2,
        ((disk.write path (utf8 (s.holding handle).fileText.toList)).1.mapError (.io path)).map
          fun _ => handle⟩ := by
  have hholding : (s.holding handle).file? = some path := hfile
  rw [record_of_new hnew]
  simp only [flush, hholding, save, writeText]

/-- A new handle makes the call fail exactly when its write fails. -/
theorem outcome_eq_io (hfile : s.file? = some path) (hnew : ¬ s.contains handle.name)
    {disk : Disk} {cause : IoError} :
    (s.record disk handle).outcome = .error (.io path cause) ↔
      (disk.write path (utf8 (s.holding handle).fileText.toList)).1 = .error cause := by
  rw [record_of_file hfile hnew, map_eq_error, mapError_eq_error]
  simp

/-- A call works exactly when its handle is new and has been written. -/
theorem outcome_eq_ok (hfile : s.file? = some path) {disk : Disk} {returned : Handle} :
    (s.record disk handle).outcome = .ok returned ↔
      returned = handle ∧ ¬ s.contains handle.name ∧
        (disk.write path (utf8 (s.holding handle).fileText.toList)).1 = .ok () := by
  by_cases hcontains : s.contains handle.name
  · simp [record_of_contains hcontains, hcontains]
  · rw [record_of_file hfile hcontains, map_eq_ok]
    constructor
    · rintro ⟨_, hwritten, rfl⟩
      exact ⟨rfl, hcontains, mapError_eq_ok.mp hwritten⟩
    · rintro ⟨rfl, -, hwrite⟩
      exact ⟨(), mapError_eq_ok.mpr hwrite, rfl⟩

/-- After a call that works, the session is loaded from its file. -/
theorem load_of_outcome_eq_ok (hfile : s.file? = some path)
    (hnodup : (s.handles.map (·.name)).Nodup) {disk : Disk} {returned : Handle}
    (hok : (s.record disk handle).outcome = .ok returned) :
    load (s.record disk handle).disk path s.chainId = .ok (s.record disk handle).session := by
  obtain ⟨-, hnew, hwrite⟩ := (outcome_eq_ok hfile).mp hok
  have hsave : (s.holding handle).save disk path =
      (.ok (), (disk.write path (utf8 (s.holding handle).fileText.toList)).2) :=
    save_eq_ok.mpr (Prod.ext hwrite rfl)
  have hsame : (s.holding handle).persistTo path = s.holding handle := by
    simp [persistTo, holding, ← hfile]
  rw [record_of_file hfile hnew, load_eq_ofText_of_save hsave]
  exact (ofText_fileText path (nodup_names_holding hnodup hnew)).trans (congrArg _ hsame)

/-- Whatever calls have been made on whatever disks, a session with a file holds the first handle of
each unit. The next handle is refused exactly when its unit is present, and then neither the session
nor the disk changes. Otherwise the handle is appended; the call fails exactly when its write fails,
and with the same cause. Once a write works, all handles are loaded from the file, with those whose
own write had failed. -/
theorem load_of_recorded (hs : s.Reachable) (hfile : s.file? = some path)
    (calls : List Recording) :
    let all := s.handles ++ calls.map (·.handle)
    let t := s.recordAll calls
    t.chainId = s.chainId ∧ t.file? = some path ∧ t.handles = Handle.firstOfEach all ∧
    ∀ (disk : Disk) (handle : Handle),
      let r := t.record disk handle
      let written := disk.write path (utf8 (t.holding handle).fileText.toList)
      (∀ unit, r.outcome = .error (.alreadyRecorded unit) ↔
        unit = handle.name ∧ handle.name ∈ all.map (·.name)) ∧
      (handle.name ∈ all.map (·.name) → r.session = t ∧ r.disk = disk) ∧
      (handle.name ∉ all.map (·.name) → r.session = t.holding handle ∧ r.disk = written.2 ∧
        ∀ cause, r.outcome = .error (.io path cause) ↔ written.1 = .error cause) ∧
      (r.outcome = .ok handle ↔ handle.name ∉ all.map (·.name) ∧ written.1 = .ok ()) ∧
      (r.outcome = .ok handle → load r.disk path s.chainId = .ok r.session ∧
        r.session.handles = Handle.firstOfEach (all ++ [handle])) := by
  intro all t
  have ht : t = { s with handles := Handle.firstOfEach all } := recordAll_eq hs.nodup_names calls
  have hchainId : t.chainId = s.chainId := by rw [ht]
  have hpath : t.file? = some path := by rw [ht, hfile]
  have hhandles : t.handles = Handle.firstOfEach all := by rw [ht]
  refine ⟨hchainId, hpath, hhandles, fun disk handle => ?_⟩
  have hcontains : handle.name ∈ all.map (·.name) ↔ t.contains handle.name := by
    rw [contains_iff_mem_names, hhandles, Handle.mem_names_firstOfEach]
  simp only [hcontains]
  refine ⟨fun unit => outcome_eq_alreadyRecorded, fun hpresent => ?_, fun hnew => ?_, ?_,
    fun hok => ⟨?_, ?_⟩⟩
  · rw [record_of_contains hpresent]
    exact ⟨rfl, rfl⟩
  · refine ⟨?_, ?_, fun cause => outcome_eq_io hpath hnew⟩
    · rw [record_of_file hpath hnew]
    · rw [record_of_file hpath hnew]
  · exact (outcome_eq_ok hpath).trans (and_iff_right rfl)
  · rw [← hchainId]
    exact load_of_outcome_eq_ok hpath (hs.recordAll calls).nodup_names hok
  · have hagain := recordAll_eq hs.nodup_names (calls ++ [⟨disk, handle⟩])
    rw [recordAll_concat] at hagain
    rw [hagain, List.map_append, ← List.append_assoc]
    rfl

/-- A disk on which the next write is denied. -/
def deniedOnce : Disk :=
  { Disk.empty with faults := [some .denied] }

/-- The file of the first handle cannot be written. With the second handle both of them are loaded
from it, and the first unit is refused from then on. -/
theorem load_of_recorded_of_deniedOnce :
    let s := (new 1).persistTo "s.json"
    let lib : Handle := ⟨"Lib", .repeating 7, none⟩
    let app : Handle := ⟨"App", .repeating 8, none⟩
    let first := s.record deniedOnce lib
    let second := first.session.record first.disk app
    let third := second.session.record second.disk lib
    s.Reachable ∧ first.outcome = .error (.io "s.json" .denied) ∧ second.outcome = .ok app ∧
    load second.disk "s.json" 1 = .ok second.session ∧ second.session.handles = [lib, app] ∧
    third.outcome = .error (.alreadyRecorded "Lib") ∧ third.session = second.session ∧
    third.disk = second.disk := by
  intro s lib app first second third
  have hs : s.Reachable := (Reachable.new 1).persistTo "s.json"
  have hfirst : ¬ "Lib" ∈ ([] : List Handle).map (·.name) := List.not_mem_nil
  have hthird : "Lib" ∈ [lib, app].map (·.name) := List.mem_cons_self
  have hsecond : second.outcome = .ok app := rfl
  obtain ⟨-, -, -, hcall⟩ := load_of_recorded hs rfl []
  obtain ⟨-, -, hdenied, -⟩ := hcall deniedOnce lib
  obtain ⟨-, -, -, hcall⟩ := load_of_recorded hs rfl [⟨deniedOnce, lib⟩]
  obtain ⟨-, -, -, -, hloaded⟩ := hcall first.disk app
  obtain ⟨-, -, -, hcall⟩ := load_of_recorded hs rfl [⟨deniedOnce, lib⟩, ⟨first.disk, app⟩]
  obtain ⟨hrefused, hkept, -⟩ := hcall second.disk lib
  obtain ⟨hload, hhandles⟩ := hloaded hsecond
  exact ⟨hs, ((hdenied hfirst).2.2 .denied).mpr rfl, hsecond, hload, hhandles,
    (hrefused "Lib").mpr ⟨rfl, hthird⟩, (hkept hthird).1, (hkept hthird).2⟩

end Session

end Rollout
