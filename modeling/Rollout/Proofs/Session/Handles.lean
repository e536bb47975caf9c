import Rollout.Session.Basic
import Rollout.Proofs.Outcome
import Rollout.Proofs.Sequence

/-!
# The handles of a session

A session only ever gains handles, and it gains them at the end. Whatever is found in a session is
therefore found in every later one, with the same address.
-/

namespace Rollout

namespace Session

/-- The session with one more handle. -/
def holding (s : Session) (handle : Handle) : Session :=
  { s with handles := s.handles ++ [handle] }

/-- The session with more handles. -/
def holdingAll (s : Session) (handles : List Handle) : Session :=
  { s with handles := s.handles ++ handles }

/-- The disk after the session has been written with each of the handles in turn. -/
def diskAfter (s : Session) (disk : Disk) (handles : List Handle) : Disk :=
  match handles with
  | [] => disk
  | handle :: handles => (s.holding handle).diskAfter ((s.holding handle).flush disk).2 handles

/-- The handle of a unit is found exactly when the session contains the unit. -/
theorem exists_get?_iff_contains {s : Session} {name : String} :
    (∃ handle, s.get? name = some handle) ↔ s.contains name := by
  rw [← Option.isSome_iff_exists, get?, List.find?_isSome, contains, List.any_eq_true]

/-- A handle of a session without repeated names is found under its name. -/
theorem get?_of_mem {s : Session} (hnodup : (s.handles.map (·.name)).Nodup) {handle : Handle}
    (hmem : handle ∈ s.handles) : s.get? handle.name = some handle :=
  find?_of_nodup_map hnodup hmem

/-- A handle that is found stays found in every later session. -/
theorem get?_mono {s t : Session} (hhandles : s.handles <+: t.handles) {name : String}
    {handle : Handle} (hget : s.get? name = some handle) : t.get? name = some handle := by
  obtain ⟨later, hlater⟩ := hhandles
  rw [get?] at hget
  rw [get?, ← hlater, List.find?_append, hget, Option.some_or]

/-- Every later session contains what a session contains. -/
theorem contains_mono {s t : Session} (hhandles : s.handles <+: t.handles) {name : String}
    (hcontains : s.contains name) : t.contains name := by
  obtain ⟨handle, hget⟩ := exists_get?_iff_contains.mpr hcontains
  exact exists_get?_iff_contains.mp ⟨handle, get?_mono hhandles hget⟩

/-- The address of a unit is that of its handle. -/
theorem resolve_eq_ok {s : Session} {unit name : String} {address : Address} :
    s.resolve unit name = .ok address ↔
      ∃ handle, s.get? name = some handle ∧ handle.address = address := by
  unfold resolve
  cases s.get? name with
  | none => simp
  | some handle => simp

/-- Whatever has an address is contained. -/
theorem contains_of_resolve {s : Session} {unit name : String} {address : Address}
    (hresolve : s.resolve unit name = .ok address) : s.contains name := by
  obtain ⟨handle, hget, -⟩ := resolve_eq_ok.mp hresolve
  exact exists_get?_iff_contains.mp ⟨handle, hget⟩

/-- A unit has no address when the session does not contain it, and for no other reason. -/
theorem resolve_eq_error {s : Session} {unit name : String} {e : LinkError} :
    s.resolve unit name = .error e ↔ ¬ s.contains name ∧ e = .unresolved unit name := by
  rw [← exists_get?_iff_contains, resolve]
  cases s.get? name with
  | none => simp [eq_comm]
  | some handle => simp

/-- The old handles come first in the session with one more handle. -/
theorem prefix_holding (s : Session) (handle : Handle) :
    s.handles <+: (s.holding handle).handles :=
  List.prefix_append _ _

/-- One more handle adds one name. -/
theorem contains_holding {s : Session} {handle : Handle} {name : String} :
    (s.holding handle).contains name ↔ s.contains name ∨ handle.name = name := by
  simp [contains, holding]

@[simp]
theorem holdingAll_nil (s : Session) : s.holdingAll [] = s := by
  simp [holdingAll]

@[simp]
theorem holdingAll_cons (s : Session) (handle : Handle) (handles : List Handle) :
    s.holdingAll (handle :: handles) = (s.holding handle).holdingAll handles := by
  simp [holdingAll, holding]

/-- Only the file can keep a session from being written. -/
theorem flush_eq_error {s : Session} {disk : Disk} {e : SessionError}
    (herror : (s.flush disk).1 = .error e) : ∃ path cause, e = .io path cause := by
  unfold flush at herror
  cases hfile : s.file? with
  | none => simp [hfile] at herror
  | some path =>
    simp only [hfile, save, writeText, mapError_eq_error] at herror
    obtain ⟨cause, -, rfl⟩ := herror
    exact ⟨path, cause, rfl⟩

/-- A new handle is appended, and the session with it is written. -/
theorem record_of_new {s : Session} {handle : Handle} (hnew : ¬ s.contains handle.name)
    (disk : Disk) : s.record disk handle = ⟨s.holding handle, ((s.holding handle).flush disk).2,
      ((s.holding handle).flush disk).1.map fun _ => handle⟩ := by
  simp only [record, insert, if_neg hnew, holding]

end Session

end Rollout
