import Rollout.Proofs.Json.RoundTrip
import Rollout.Proofs.Session.Handles
import Rollout.Proofs.Storage.Writing

/-!
# Reopening sessions

A session that is written to its file can be opened again from it, and what is opened is the same
session: the same chain, the same file and the same handles in the same order.
-/

namespace Rollout

namespace Handle

/-- A reader of handles can read the text of a handle. -/
theorem legible_toJson (h : Handle) : h.toJson.Legible shape := by
  have hmembers : ∀ member ∈ [("name", Json.string h.name), ("address", .string h.address.text)] ++
      (h.txHash.map fun hash => ("tx_hash", Json.string hash.text)).toList,
      ∃ s, member.2 = .string s := by
    cases h.txHash <;> simp
  refine Json.Legible.object fun member hmember => ?_
  obtain ⟨s, hs⟩ := hmembers member hmember
  rw [hs]
  exact Json.Legible.string s

/-- A written handle is read back. -/
theorem ofJson?_toJson (h : Handle) : ofJson? h.toJson = some h := by
  obtain ⟨name, address, txHash⟩ := h
  cases txHash <;>
    simp [ofJson?, toJson, Json.record?, Json.field?, Json.valuesOf, Json.string?, Json.orNull,
      FixedBytes.ofJson?, FixedBytes.parse?_text]

end Handle

namespace Session

variable {s t : Session} {disk disk' : Disk} {path : String} {chainId : UInt64}

/-- A reader of sessions can read the text of a session. -/
theorem legible_toJson (s : Session) : s.toJson.Legible shape := by
  have hhandles : Json.Legible (.list Handle.shape) (.array (s.handles.map Handle.toJson)) := by
    refine Json.Legible.array ?_ fun i item hitem => ?_
    · rintro n ⟨⟩
    · rw [List.getElem?_map] at hitem
      obtain ⟨h, -, rfl⟩ := Option.map_eq_some_iff.mp hitem
      exact h.legible_toJson
  refine Json.Legible.object fun member hmember => ?_
  rcases List.mem_pair.mp hmember with rfl | rfl
  · exact Json.Legible.number ⟨rfl, rfl⟩
  · exact hhandles

/-- The chain and the handles of a written session are read back. -/
theorem contents?_toJson (s : Session) : contents? s.toJson = some (s.chainId, s.handles) := by
  have hchainId : (Json.ofNat s.chainId.toNat).uint64? = some s.chainId := by
    have hlt : s.chainId.toNat < Nat.pow 2 64 := s.chainId.toNat_lt
    simp only [Json.uint64?, Json.nat?, Json.ofNat, Numeral.nat?, Numeral.ofNat]
    simp [hlt]
  have hhandles : (s.handles.map Handle.toJson).mapM Handle.ofJson? = some s.handles := by
    have hread : Handle.ofJson? ∘ Handle.toJson = fun h => some (id h) :=
      funext Handle.ofJson?_toJson
    rw [List.mapM_map, hread]
    exact (List.mapM_pure (m := Option)).trans (congrArg some (List.map_id _))
  simp [contents?, toJson, Json.record?, Json.field?, Json.valuesOf, Json.list?, Json.items?,
    hchainId, hhandles]

/-- Handles can be inserted one after the other exactly when no two of them, and none of them and
one of the session, have the same name. -/
theorem foldlM_insert_eq_ok {handles : List Handle} :
    handles.foldlM insert s = .ok t ↔
      t = s.holdingAll handles ∧ (handles.map (·.name)).Nodup ∧
        ∀ handle ∈ handles, ¬ s.contains handle.name := by
  induction handles generalizing s with
  | nil => simp [Pure.pure, Except.pure, eq_comm (a := t)]
  | cons handle handles ih =>
    rw [List.foldlM_cons, bind_eq_ok, List.map_cons, List.nodup_cons, List.forall_mem_cons,
      holdingAll_cons]
    by_cases hcontains : s.contains handle.name
    · have hinsert : s.insert handle = .error (.alreadyRecorded handle.name) := if_pos hcontains
      simp [hinsert, hcontains]
    · have hinsert : s.insert handle = .ok (s.holding handle) := if_neg hcontains
      simp only [hinsert, Except.ok.injEq, exists_eq_left', ih, contains_holding, not_or]
      constructor
      · rintro ⟨rfl, hnodup, hnew⟩
        refine ⟨rfl, ⟨fun hmem => ?_, hnodup⟩, hcontains, fun h hh => (hnew h hh).1⟩
        obtain ⟨h, hh, hname⟩ := List.mem_map.mp hmem
        exact (hnew h hh).2 hname.symm
      · rintro ⟨rfl, ⟨hname, hnodup⟩, -, hnew⟩
        refine ⟨rfl, hnodup, fun h hh => ⟨hnew h hh, fun hsame => hname ?_⟩⟩
        exact List.mem_map.mpr ⟨h, hh, hsame.symm⟩

/-- A text that is read for a chain yields a session of the chain that writes the file and holds no
unit twice. -/
theorem ofText_eq_ok {text : String} (htext : ofText path text chainId = .ok s) :
    s.chainId = chainId ∧ s.file? = some path ∧ (s.handles.map (·.name)).Nodup := by
  unfold ofText at htext
  split at htext
  · cases htext
  · split at htext
    · obtain ⟨t, hinsert, rfl⟩ := map_eq_ok.mp htext
      obtain ⟨rfl, hnodup, -⟩ := foldlM_insert_eq_ok.mp hinsert
      exact ⟨rfl, rfl, hnodup⟩
    · cases htext

/-- What is loaded for a chain is a session of the chain that writes the file and holds no unit
twice. -/
theorem load_eq_ok (hload : load disk path chainId = .ok s) :
    s.chainId = chainId ∧ s.file? = some path ∧ (s.handles.map (·.name)).Nodup := by
  unfold load at hload
  split at hload
  · cases hload
  · exact ofText_eq_ok hload

/-- What is opened for a chain is a session of the chain that writes the file and holds no unit
twice. -/
theorem openOrNew_eq_ok (hopen : openOrNew disk path chainId = .ok s) :
    s.chainId = chainId ∧ s.file? = some path ∧ (s.handles.map (·.name)).Nodup := by
  unfold openOrNew at hopen
  split at hopen
  · exact load_eq_ok hopen
  · obtain rfl := Except.ok.inj hopen
    exact ⟨rfl, rfl, List.nodup_nil⟩

/-- The chain and the handles of a session are read back from its text. -/
theorem contents?_fileText (s : Session) :
    (Json.parseAs? shape s.fileText).bind contents? = some (s.chainId, s.handles) := by
  rw [fileText, Json.parseAs?_pretty s.legible_toJson, Option.bind_some, contents?_toJson]

/-- A written session is read back from its text. -/
theorem ofText_fileText (path : String) (hnodup : (s.handles.map (·.name)).Nodup) :
    ofText path s.fileText s.chainId = .ok (s.persistTo path) := by
  have hinsert : s.handles.foldlM insert (new s.chainId) =
      .ok ((new s.chainId).holdingAll s.handles) :=
    foldlM_insert_eq_ok.mpr ⟨rfl, hnodup, fun handle _ => by simp [new, contains]⟩
  have hsame : ((new s.chainId).holdingAll s.handles).persistTo path = s.persistTo path := by
    simp [new, holdingAll, persistTo]
  simp only [ofText, contents?_fileText, if_pos, hinsert, Except.map, hsame]

/-- A session is saved exactly when its text is written. -/
theorem save_eq_ok : s.save disk path = (.ok (), disk') ↔
    disk.write path (utf8 s.fileText.toList) = (.ok (), disk') := by
  simp only [save, writeText, Prod.ext_iff, mapError_eq_ok]

/-- A session that has been saved is loaded from its text. -/
theorem load_eq_ofText_of_save (hsave : s.save disk path = (.ok (), disk')) (chainId : UInt64) :
    load disk' path chainId = ofText path s.fileText chainId := by
  simp only [load, Disk.readText_of_write (save_eq_ok.mp hsave)]

/-- A session that has been written to its file is opened again from it. -/
theorem openOrNew_of_flush (hfile : s.file? = some path) (hnodup : (s.handles.map (·.name)).Nodup)
    (hflush : s.flush disk = (.ok (), disk')) : openOrNew disk' path s.chainId = .ok s := by
  have hsave : s.save disk path = (.ok (), disk') := by simpa only [flush, hfile] using hflush
  have hcontains : disk'.contains path :=
    Disk.contains_iff_read.mpr (Or.inl ⟨_, Disk.read_of_write (save_eq_ok.mp hsave)⟩)
  have hsame : s.persistTo path = s := by simp [persistTo, ← hfile]
  rw [openOrNew, if_pos hcontains, load_eq_ofText_of_save hsave, ofText_fileText path hnodup, hsame]

/-- A session that holds no unit twice holds none twice with the handle of another unit. -/
theorem nodup_names_holding {handle : Handle} (hnodup : (s.handles.map (·.name)).Nodup)
    (hnew : ¬ s.contains handle.name) : ((s.holding handle).handles.map (·.name)).Nodup := by
  have hname : handle.name ∉ s.handles.map (·.name) := by
    intro hmem
    obtain ⟨h, hh, hname⟩ := List.mem_map.mp hmem
    exact hnew (List.any_eq_true.mpr ⟨h, hh, beq_iff_eq.mpr hname⟩)
  rw [holding, List.map_append]
  exact List.nodup_append.mpr ⟨hnodup, by simp, by simpa using hname⟩

/-- If a session is what would be opened, then so it is with one more handle, once it has been
written. -/
theorem openOrNew_holding {handle : Handle} (hopen : openOrNew disk path chainId = .ok s)
    (hnew : ¬ s.contains handle.name)
    (hflush : (s.holding handle).flush disk = (.ok (), disk')) :
    openOrNew disk' path chainId = .ok (s.holding handle) := by
  obtain ⟨hchainId, hfile, hnodup⟩ := openOrNew_eq_ok hopen
  have hnames := nodup_names_holding hnodup hnew
  have hopened : openOrNew disk' path (s.holding handle).chainId = .ok (s.holding handle) :=
    openOrNew_of_flush hfile hnames hflush
  rwa [show (s.holding handle).chainId = chainId from hchainId] at hopened

/-- Opening depends on the file only. -/
theorem openOrNew_congr (hread : disk.read path = disk'.read path) :
    openOrNew disk path chainId = openOrNew disk' path chainId := by
  simp only [openOrNew, Disk.contains_congr hread, load, Disk.readText, hread]

end Session

end Rollout
