import Rollout.Proofs.Plan.Runs
import Rollout.Proofs.Session.Reopening
import Mathlib.Data.UInt

/-!
# Saved sessions

A session that is saved under any path can be loaded from there, for its own chain and for no other
one. What is loaded holds the same handles, and its file has the same bytes wherever it is saved.
-/

namespace Rollout

namespace Session

variable {s t : Session} {disk disk' : Disk} {path : String} {chainId : UInt64}

/-- The sessions that the public operations lead to. A handle can be of any unit, recorded on any
disk, and what is loaded can come from any file. -/
inductive Reachable : Session → Prop
  | new (chainId : UInt64) : Reachable (new chainId)
  | persistTo {s : Session} (hs : Reachable s) (path : String) : Reachable (s.persistTo path)
  | loaded {s : Session} {disk : Disk} {path : String} {chainId : UInt64}
      (hload : load disk path chainId = .ok s) : Reachable s
  | opened {s : Session} {disk : Disk} {path : String} {chainId : UInt64}
      (hopen : openOrNew disk path chainId = .ok s) : Reachable s
  /-- The handle may be refused, or its session's file may not be written. -/
  | recorded {s : Session} (hs : Reachable s) (disk : Disk) (handle : Handle) :
      Reachable (s.record disk handle).session

/-- Recording a handle adds it or changes nothing. -/
theorem session_record (s : Session) (disk : Disk) (handle : Handle) :
    (s.record disk handle).session =
      if s.contains handle.name then s else s.holding handle := by
  by_cases hcontains : s.contains handle.name
  · simp only [record, insert, if_pos hcontains]
  · rw [record_of_new hcontains, if_neg hcontains]

/-- No session that can be reached holds a unit twice. -/
theorem Reachable.nodup_names (hs : s.Reachable) : (s.handles.map (·.name)).Nodup := by
  induction hs with
  | new => exact List.nodup_nil
  | persistTo _ _ ih => exact ih
  | loaded hload => exact (load_eq_ok hload).2.2
  | opened hopen => exact (openOrNew_eq_ok hopen).2.2
  | @recorded s _ disk handle ih =>
    rw [session_record]
    split
    · exact ih
    · exact nodup_names_holding ih ‹_›

/-- Adding the handle of a unit that is not held leads to a session that can be reached. -/
theorem Reachable.holding (hs : s.Reachable) {handle : Handle}
    (hnew : ¬ s.contains handle.name) : (s.holding handle).Reachable := by
  have hrecorded := hs.recorded .empty handle
  rwa [session_record, if_neg hnew] at hrecorded

/-- A text is refused for every chain but the one that it was written for. -/
theorem ofText_fileText_of_ne (path : String) (hchainId : chainId ≠ s.chainId) :
    ofText path s.fileText chainId = .error (.chainMismatch path chainId s.chainId) := by
  simp only [ofText, contents?_fileText, if_neg hchainId.symm]

/-- A session that can be reached and has been saved is loaded with its chain and with its handles
in their order. The file of what is loaded has the same bytes wherever it is saved, and saving it
under the same path works unless that write is made to fail. For every other chain the file is
refused with both chains named. Whatever a file holds, what is loaded from it is a session of the
chain that was asked for in which no two units have the same name. -/
theorem load_of_save (hs : s.Reachable) (hsave : s.save disk path = (.ok (), disk')) :
    (∃ t content, load disk' path s.chainId = .ok t ∧ t.chainId = s.chainId ∧
      t.handles = s.handles ∧ disk'.read path = .ok content ∧
      (∀ disk₂ path₂ disk₂', t.save disk₂ path₂ = (.ok (), disk₂') →
        disk₂'.read path₂ = .ok content) ∧
      (disk'.faults.head?.join = none → (t.save disk' path).1 = .ok ())) ∧
    (∀ other, other ≠ s.chainId →
      load disk' path other = .error (.chainMismatch path other s.chainId)) ∧
    ∀ disk path chainId t, load disk path chainId = .ok t →
      t.chainId = chainId ∧ (t.handles.map (·.name)).Nodup := by
  refine ⟨⟨s.persistTo path, utf8 s.fileText.toList, ?_, rfl, rfl, ?_, ?_, ?_⟩, ?_, ?_⟩
  · rw [load_eq_ofText_of_save hsave]
    exact ofText_fileText path hs.nodup_names
  · exact Disk.read_of_write (save_eq_ok.mp hsave)
  · intro disk₂ path₂ disk₂' hagain
    exact Disk.read_of_write (save_eq_ok.mp hagain)
  · intro hfault
    exact mapError_eq_ok.mpr (Disk.write_of_write (save_eq_ok.mp hsave) hfault _)
  · intro other hother
    rw [load_eq_ofText_of_save hsave]
    exact ofText_fileText_of_ne path hother
  · intro disk path chainId t hload
    obtain ⟨hchainId, -, hnodup⟩ := load_eq_ok hload
    exact ⟨hchainId, hnodup⟩

/-- A session of the last chain. One name is made of characters that are escaped in its file and of
one that lies beyond the basic plane, and the other name is empty. -/
def oddlyNamed : Session :=
  let handle : Handle := ⟨"\"\\\n\x01\x7f𝄞", .repeating 9, some (FixedBytes.replicate 32 2)⟩
  let other : Handle := ⟨"", .repeating 7, none⟩
  (((new (2 ^ 64 - 1)).record .empty handle).session.record .empty other).session

/-- Both handles are loaded from the file, which is refused for the first chain. -/
theorem load_of_save_of_oddlyNamed :
    let saved := oddlyNamed.save .empty "s.json"
    oddlyNamed.Reachable ∧ saved.1 = .ok () ∧ oddlyNamed.handles.length = 2 ∧
    (∃ t content, load saved.2 "s.json" (2 ^ 64 - 1) = .ok t ∧ t.handles = oddlyNamed.handles ∧
      saved.2.read "s.json" = .ok content ∧ (t.save saved.2 "s.json").1 = .ok () ∧
      ∀ disk path disk', t.save disk path = (.ok (), disk') → disk'.read path = .ok content) ∧
    load saved.2 "s.json" 1 = .error (.chainMismatch "s.json" 1 (2 ^ 64 - 1)) := by
  intro saved
  have hs : oddlyNamed.Reachable := ((Reachable.new _).recorded _ _).recorded _ _
  have hsave : oddlyNamed.save .empty "s.json" = (.ok (), saved.2) := rfl
  obtain ⟨⟨t, content, hload, -, hhandles, hread, hbytes, hworks⟩, hother, -⟩ :=
    load_of_save hs hsave
  exact ⟨hs, rfl, rfl, ⟨t, content, hload, hhandles, hread, hworks rfl, hbytes⟩,
    hother 1 (by decide +kernel)⟩

end Session

namespace Plan

/-- A run leads from a session that can be reached to one that can be reached. -/
theorem Runs.reachable {p : Plan} {units : List PlannedUnit} {session : Session} {disk : Disk}
    {submitter : Submitter} {e : Execution} (hruns : Runs p units session disk submitter e)
    (hsession : session.Reachable) : e.session.Reachable := by
  induction hruns with
  | done => exact hsession
  | skipped _ _ ih => exact ih hsession
  | unbuilt => exact hsession
  | unsettled => exact hsession
  | unwritten hnew _ hsettle => exact hsession.holding (by rwa [settle_name hsettle])
  | deployed hnew _ hsettle _ _ ih =>
    exact ih (hsession.holding (by rwa [settle_name hsettle]))

/-- Executing a plan on a session that can be reached leaves one that can be reached, wherever the
execution stops. -/
theorem reachable_execute {session : Session} (hsession : session.Reachable) (p : Plan)
    (disk : Disk) (submitter : Submitter) :
    (p.execute session disk submitter).session.Reachable :=
  (p.runs_executeUnits p.units session disk submitter).reachable hsession

end Plan

end Rollout
