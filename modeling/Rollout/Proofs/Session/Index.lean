import Mathlib.Logic.Relation
import Rollout.Proofs.Session.Saved
import Rollout.Session.Index

/-!
# Handles and index in step

The index of a session has a position for every unit that has a handle, and for no other one,
because every operation that adds a handle adds its position. An indexed session therefore does
what a session without an index does, and none of its look-ups breaks off.
-/

namespace Rollout

namespace IndexedSession

variable {s t start : IndexedSession} {handle : Handle} {chainId : UInt64} {disk : Disk}
  {path text : String}

/-- No two handles have the same name, and the index has the positions of all handles and no other
ones. -/
structure InStep (s : IndexedSession) : Prop where
  nodup_names : (s.handles.map (·.name)).Nodup
  index_eq_some : ∀ name position, s.index name = some position ↔
    ∃ handle, s.handles[position]? = some handle ∧ handle.name = name

/-- The session with one more handle and its position. -/
def holding (s : IndexedSession) (handle : Handle) : IndexedSession where
  toSession := s.toSession.holding handle
  index name := if name = handle.name then some s.handles.length else s.index name

/-- The ways in which a session for a chain begins. -/
inductive Begins (chainId : UInt64) : IndexedSession → Prop
  | new : Begins chainId (new chainId)
  | loaded {s : IndexedSession} {disk : Disk} {path : String}
      (hload : load disk path chainId = .ok s) : Begins chainId s
  | opened {s : IndexedSession} {disk : Disk} {path : String}
      (hopen : openOrNew disk path chainId = .ok s) : Begins chainId s

/-- One operation leads from a session to the next. -/
inductive Step : IndexedSession → IndexedSession → Prop
  | persistTo (s : IndexedSession) (path : String) : Step s (s.persistTo path)
  /-- The handle may be refused, or its session's file may not be written. -/
  | recorded (s : IndexedSession) (disk : Disk) (handle : Handle) :
    Step s (s.record disk handle).session

/-- The unit is in the index exactly when it has a handle. -/
theorem InStep.contains_eq (hs : s.InStep) (name : String) :
    s.contains name = s.toSession.contains name := by
  rw [Bool.eq_iff_iff, contains, Option.isSome_iff_exists, Session.contains, List.any_eq_true]
  simp only [hs.index_eq_some, List.mem_iff_getElem?, beq_iff_eq]
  constructor
  · rintro ⟨position, handle, hhandle, hname⟩
    exact ⟨handle, ⟨position, hhandle⟩, hname⟩
  · rintro ⟨handle, ⟨position, hhandle⟩, hname⟩
    exact ⟨position, handle, hhandle, hname⟩

/-- Every position of the index leads to the handle that a search finds. -/
theorem InStep.handleAt_eq (hs : s.InStep) {name : String} {position : ℕ}
    (hindex : s.index name = some position) :
    ∃ handle, s.handleAt position = .ok handle ∧ s.toSession.get? name = some handle := by
  obtain ⟨handle, hhandle, rfl⟩ := (hs.index_eq_some name position).mp hindex
  refine ⟨handle, by simp only [handleAt, hhandle], ?_⟩
  exact Session.get?_of_mem hs.nodup_names (List.mem_of_getElem? hhandle)

/-- The index finds the handle that a search finds. -/
theorem InStep.get?_eq (hs : s.InStep) (name : String) :
    s.get? name = .ok (s.toSession.get? name) := by
  unfold get?
  cases hindex : s.index name with
  | some position =>
    obtain ⟨handle, hat, hget⟩ := hs.handleAt_eq hindex
    simp only [hat, hget, Except.map]
  | none =>
    have hcontains : ¬ s.toSession.contains name := by
      rw [← hs.contains_eq, contains, hindex]
      decide
    have hget : s.toSession.get? name = none :=
      Option.eq_none_iff_forall_ne_some.mpr fun handle hget =>
        hcontains (Session.exists_get?_iff_contains.mp ⟨handle, hget⟩)
    rw [hget]

/-- The index finds the address that a search finds. -/
theorem InStep.resolve_eq (hs : s.InStep) (unit name : String) :
    s.resolve unit name = .ok (s.toSession.resolve unit name) := by
  rw [resolve, hs.get?_eq, Session.resolve]
  cases s.toSession.get? name with
  | none => rfl
  | some handle => rfl

/-- A handle that must be there is found where it is. -/
theorem InStep.get_of_mem (hs : s.InStep) (hmem : handle ∈ s.handles) :
    s.get handle.name = .ok handle := by
  obtain ⟨position, hposition⟩ := List.mem_iff_getElem?.mp hmem
  have hindex := (hs.index_eq_some handle.name position).mpr ⟨handle, hposition, rfl⟩
  simp only [get, hindex, handleAt, hposition]

/-- A new session is in step. -/
theorem inStep_new (chainId : UInt64) : (new chainId).InStep :=
  ⟨List.nodup_nil, by simp [new, Session.new]⟩

/-- The file of a session has nothing to do with its handles. -/
theorem InStep.persistTo (hs : s.InStep) (path : String) : (s.persistTo path).InStep :=
  ⟨hs.nodup_names, hs.index_eq_some⟩

/-- The last position of a longer list has the new item, and the other ones have what they had. -/
theorem getElem?_concat_eq_some {α : Type} {l : List α} {a b : α} {position : ℕ} :
    (l ++ [a])[position]? = some b ↔
      l[position]? = some b ∨ position = l.length ∧ a = b := by
  grind

/-- A handle of a new unit and its position are added together. -/
theorem InStep.holding (hs : s.InStep) (hnew : ¬ s.contains handle.name) :
    (s.holding handle).InStep := by
  have hnew' : ¬ s.toSession.contains handle.name := by rwa [← hs.contains_eq]
  refine ⟨Session.nodup_names_holding hs.nodup_names hnew', fun name position => ?_⟩
  simp only [IndexedSession.holding, Session.holding, getElem?_concat_eq_some]
  by_cases hname : name = handle.name
  · have hold : ¬ ∃ h, s.handles[position]? = some h ∧ h.name = name := by
      rw [← hs.index_eq_some, hname]
      intro hindex
      exact hnew (by rw [contains, hindex]; rfl)
    rw [if_pos hname, Option.some.injEq]
    constructor
    · rintro rfl
      exact ⟨handle, Or.inr ⟨rfl, rfl⟩, hname.symm⟩
    · rintro ⟨h, hh | ⟨rfl, -⟩, hhname⟩
      · exact absurd ⟨h, hh, hhname⟩ hold
      · rfl
  · rw [if_neg hname, hs.index_eq_some]
    constructor
    · rintro ⟨h, hh, hhname⟩
      exact ⟨h, Or.inl hh, hhname⟩
    · rintro ⟨h, hh | ⟨-, rfl⟩, hhname⟩
      · exact ⟨h, hh, hhname⟩
      · exact absurd hhname.symm hname

/-- A handle is inserted, with its position, exactly when its unit has none yet. -/
theorem insert_eq (s : IndexedSession) (handle : Handle) :
    s.insert handle =
      if s.contains handle.name then .error (.alreadyRecorded handle.name)
      else .ok (s.holding handle) := rfl

/-- A handle is inserted or refused as without an index. -/
theorem InStep.map_insert (hs : s.InStep) (handle : Handle) :
    (s.insert handle).map toSession = s.toSession.insert handle := by
  rw [insert_eq, Session.insert, hs.contains_eq]
  split <;> rfl

/-- Inserting a handle keeps handles and index in step. -/
theorem InStep.insert (hs : s.InStep) (hinsert : s.insert handle = .ok t) : t.InStep := by
  rw [insert_eq] at hinsert
  split at hinsert
  · cases hinsert
  · rename_i hnew
    obtain rfl := Except.ok.inj hinsert
    exact hs.holding hnew

/-- Handles are inserted or refused as without an index. -/
theorem InStep.map_foldlM_insert (hs : s.InStep) (handles : List Handle) :
    (handles.foldlM IndexedSession.insert s).map toSession =
      handles.foldlM Session.insert s.toSession := by
  induction handles generalizing s with
  | nil => rfl
  | cons handle handles ih =>
    rw [List.foldlM_cons, List.foldlM_cons, ← hs.map_insert]
    cases hinsert : s.insert handle with
    | error e => rfl
    | ok t => exact ih (hs.insert hinsert)

/-- Inserting handles keeps handles and index in step. -/
theorem InStep.foldlM_insert (hs : s.InStep) {handles : List Handle}
    (hinsert : handles.foldlM IndexedSession.insert s = .ok t) : t.InStep := by
  induction handles generalizing s with
  | nil =>
    obtain rfl := Except.ok.inj hinsert
    exact hs
  | cons handle handles ih =>
    rw [List.foldlM_cons] at hinsert
    obtain ⟨next, hnext, hrest⟩ := bind_eq_ok.mp hinsert
    exact ih (hs.insert hnext) hrest

/-- A text is read or refused as without an index. -/
theorem map_ofText (path text : String) (chainId : UInt64) :
    (ofText path text chainId).map toSession = Session.ofText path text chainId := by
  unfold ofText Session.ofText
  cases (Json.parseAs? Session.shape text).bind Session.contents? with
  | none => rfl
  | some contents =>
    obtain ⟨found, handles⟩ := contents
    by_cases hchainId : found = chainId
    · have hplain : (handles.foldlM IndexedSession.insert (new chainId)).map toSession =
          handles.foldlM Session.insert (Session.new chainId) :=
        (inStep_new chainId).map_foldlM_insert handles
      simp only [if_pos hchainId, ← hplain]
      cases handles.foldlM IndexedSession.insert (new chainId) with
      | error e => rfl
      | ok t => rfl
    · simp only [if_neg hchainId, Except.map]

/-- A session file is loaded or refused as without an index. -/
theorem map_load (disk : Disk) (path : String) (chainId : UInt64) :
    (load disk path chainId).map toSession = Session.load disk path chainId := by
  unfold load Session.load
  cases disk.readText path with
  | error cause => rfl
  | ok text => exact map_ofText path text chainId

/-- A session is opened or refused as without an index. -/
theorem map_openOrNew (disk : Disk) (path : String) (chainId : UInt64) :
    (openOrNew disk path chainId).map toSession = Session.openOrNew disk path chainId := by
  unfold openOrNew Session.openOrNew
  split
  · exact map_load disk path chainId
  · rfl

/-- What is read from a text is in step, whatever the text holds. -/
theorem inStep_of_ofText (htext : ofText path text chainId = .ok s) : s.InStep := by
  unfold ofText at htext
  split at htext
  · cases htext
  · split at htext
    · obtain ⟨t, hinsert, rfl⟩ := map_eq_ok.mp htext
      exact ((inStep_new chainId).foldlM_insert hinsert).persistTo path
    · cases htext

/-- What is loaded is in step, whatever the file holds. -/
theorem inStep_of_load (hload : load disk path chainId = .ok s) : s.InStep := by
  unfold load at hload
  split at hload
  · cases hload
  · exact inStep_of_ofText hload

/-- What is opened is in step, whatever the file holds. -/
theorem inStep_of_openOrNew (hopen : openOrNew disk path chainId = .ok s) : s.InStep := by
  unfold openOrNew at hopen
  split at hopen
  · exact inStep_of_load hopen
  · obtain rfl := Except.ok.inj hopen
    exact (inStep_new chainId).persistTo path

/-- Every beginning is in step and for the chain that was asked for. -/
theorem Begins.inStep (hbegins : Begins chainId s) : s.InStep ∧ s.chainId = chainId := by
  cases hbegins with
  | new => exact ⟨inStep_new chainId, rfl⟩
  | loaded hload =>
    refine ⟨inStep_of_load hload, ?_⟩
    have hplain := map_load _ _ _ ▸ map_eq_ok.mpr ⟨s, hload, rfl⟩
    exact (Session.load_eq_ok hplain).1
  | opened hopen =>
    refine ⟨inStep_of_openOrNew hopen, ?_⟩
    have hplain := map_openOrNew _ _ _ ▸ map_eq_ok.mpr ⟨s, hopen, rfl⟩
    exact (Session.openOrNew_eq_ok hplain).1

/-- A handle is recorded or refused as without an index. If it is recorded, looking it up at the end
finds it. -/
theorem InStep.record_eq (hs : s.InStep) (disk : Disk) (handle : Handle) :
    (s.record disk handle).session.toSession = (s.toSession.record disk handle).session ∧
      (s.record disk handle).disk = (s.toSession.record disk handle).disk ∧
      (s.record disk handle).outcome = .ok (s.toSession.record disk handle).outcome := by
  by_cases hcontains : s.contains handle.name
  · have hplain : s.toSession.contains handle.name := by rwa [← hs.contains_eq]
    simp only [record, insert_eq, if_pos hcontains, Session.record, Session.insert, if_pos hplain,
      and_self]
  · have hplain : ¬ s.toSession.contains handle.name := by rwa [← hs.contains_eq]
    have hget : (s.holding handle).get handle.name = .ok handle :=
      (hs.holding hcontains).get_of_mem (by simp [IndexedSession.holding, Session.holding])
    rw [Session.record_of_new hplain]
    simp only [record, insert_eq, if_neg hcontains]
    have hsame : (s.holding handle).toSession = s.toSession.holding handle := rfl
    rw [hsame]
    cases (s.toSession.holding handle).flush disk with
    | mk outcome disk' =>
      cases outcome with
      | error e => exact ⟨rfl, rfl, rfl⟩
      | ok => simp only [hget, Except.map, hsame, and_self]

/-- Recording a handle adds it or changes nothing. -/
theorem session_record (s : IndexedSession) (disk : Disk) (handle : Handle) :
    (s.record disk handle).session =
      if s.contains handle.name then s else s.holding handle := by
  by_cases hcontains : s.contains handle.name
  · simp only [record, insert_eq, if_pos hcontains]
  · simp only [record, insert_eq, if_neg hcontains]
    split <;> rfl

/-- Every operation keeps handles and index in step. -/
theorem Step.inStep (hstep : Step s t) (hs : s.InStep) : t.InStep := by
  cases hstep with
  | persistTo path => exact hs.persistTo path
  | recorded disk handle =>
    rw [session_record]
    split
    · exact hs
    · exact hs.holding ‹_›

/-- Every operation keeps the chain and only appends handles. -/
theorem Step.extends (hstep : Step s t) :
    t.chainId = s.chainId ∧ s.handles <+: t.handles := by
  cases hstep with
  | persistTo path => exact ⟨rfl, List.prefix_rfl⟩
  | recorded disk handle =>
    rw [session_record]
    split
    · exact ⟨rfl, List.prefix_rfl⟩
    · exact ⟨rfl, Session.prefix_holding s.toSession handle⟩

/-- Operations keep handles and index in step. -/
theorem inStep_of_steps (hsteps : Relation.ReflTransGen Step s t) (hs : s.InStep) : t.InStep := by
  induction hsteps with
  | refl => exact hs
  | tail _ hstep ih => exact hstep.inStep ih

/-- Operations keep the chain and only append handles. -/
theorem extends_of_steps (hsteps : Relation.ReflTransGen Step s t) :
    t.chainId = s.chainId ∧ s.handles <+: t.handles := by
  induction hsteps with
  | refl => exact ⟨rfl, List.prefix_rfl⟩
  | tail _ hstep ih => exact ⟨hstep.extends.1.trans ih.1, ih.2.trans hstep.extends.2⟩

/-- Whatever begins a session for a chain and whatever operations follow, no two handles have the
same name, and the index has exactly the positions of the handles. No look-up breaks off, and all of
them find what a search through the handles finds. Recording a handle ends as it does without an
index, so the look-up at its end finds the handle. Whatever follows keeps the chain and only appends
handles, so a unit that has an address keeps it. -/
theorem index_in_step (hbegins : Begins chainId start)
    (hsteps : Relation.ReflTransGen Step start s) :
    s.chainId = chainId ∧ s.InStep ∧
    (∀ name, s.contains name = s.toSession.contains name ∧
      s.get? name = .ok (s.toSession.get? name) ∧
      ∀ unit, s.resolve unit name = .ok (s.toSession.resolve unit name)) ∧
    (∀ handle ∈ s.handles, s.get? handle.name = .ok (some handle)) ∧
    (∀ disk handle, (s.record disk handle).outcome = .ok (s.toSession.record disk handle).outcome ∧
      (s.record disk handle).session.toSession = (s.toSession.record disk handle).session) ∧
    ∀ t, Relation.ReflTransGen Step s t → t.chainId = chainId ∧ s.handles <+: t.handles ∧
      ∀ unit name address, s.resolve unit name = .ok (.ok address) →
        t.resolve unit name = .ok (.ok address) := by
  obtain ⟨hstart, hchainId⟩ := hbegins.inStep
  have hs : s.InStep := inStep_of_steps hsteps hstart
  have hsame : s.chainId = chainId := (extends_of_steps hsteps).1.trans hchainId
  refine ⟨hsame, hs, fun name => ⟨hs.contains_eq name, hs.get?_eq name,
    fun unit => hs.resolve_eq unit name⟩, fun handle hmem => ?_, fun disk handle => ?_,
    fun t hlater => ?_⟩
  · rw [hs.get?_eq, Session.get?_of_mem hs.nodup_names hmem]
  · obtain ⟨hsession, -, houtcome⟩ := hs.record_eq disk handle
    exact ⟨houtcome, hsession⟩
  · obtain ⟨hchain, hlonger⟩ := extends_of_steps hlater
    refine ⟨hchain.trans hsame, hlonger, fun unit name address hresolve => ?_⟩
    rw [hs.resolve_eq, Except.ok.injEq] at hresolve
    obtain ⟨handle, hget, haddress⟩ := Session.resolve_eq_ok.mp hresolve
    rw [(inStep_of_steps hlater hs).resolve_eq, Except.ok.injEq]
    exact Session.resolve_eq_ok.mpr ⟨handle, Session.get?_mono hlonger hget, haddress⟩

/-- A session whose file cannot be written, because its directory is missing. -/
def unwritable : IndexedSession :=
  (new 1).persistTo "out/s.json"

/-- The same library is recorded twice, at different addresses. -/
def recordedTwice : IndexedSession :=
  let first := (unwritable.record .empty ⟨"Lib", .repeating 7, none⟩).session
  (first.record .empty ⟨"Lib", .repeating 9, none⟩).session

/-- The first handle stays, although its file could not be written, and the second one is refused.
The library keeps its first address from then on. -/
theorem index_in_step_of_recordedTwice :
    (unwritable.record .empty ⟨"Lib", .repeating 7, none⟩).outcome =
      .ok (.error (.io "out/s.json" .notFound)) ∧
    openOrNew .empty "out/s.json" 1 = .ok unwritable ∧
    recordedTwice.handles.map (·.address) = [.repeating 7] ∧
    recordedTwice.index "Lib" = some 0 ∧ recordedTwice.InStep ∧
    ∀ t, Relation.ReflTransGen Step recordedTwice t →
      t.chainId = 1 ∧ t.resolve "App" "Lib" = .ok (.ok (.repeating 7)) := by
  have hopen : openOrNew .empty "out/s.json" 1 = .ok unwritable := rfl
  have hsteps : Relation.ReflTransGen Step unwritable recordedTwice :=
    (Relation.ReflTransGen.single (Step.recorded _ _ _)).tail (Step.recorded _ _ _)
  obtain ⟨-, hs, -, -, -, hlater⟩ := index_in_step (Begins.opened hopen) hsteps
  refine ⟨rfl, hopen, rfl, rfl, hs, fun t ht => ?_⟩
  obtain ⟨hchainId, -, hkept⟩ := hlater t ht
  exact ⟨hchainId, hkept "App" "Lib" (.repeating 7) rfl⟩

end IndexedSession

end Rollout
