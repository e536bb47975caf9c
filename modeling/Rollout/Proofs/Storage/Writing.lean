import Rollout.Proofs.Outcome
import Rollout.Storage.Disk

/-!
# Writing files

A file that has been written is found under its path, with the content that was written. The path
leads through the same directories as before, because no file takes the place of a directory.
-/

namespace Rollout

/-- The entry is a directory. -/
def Entry.isDirectory : Entry → Bool
  | .file _ => false
  | .directory => true

namespace Disk

variable {d d' : Disk} {path : String} {place next : Place} {content : List UInt8}

/-- A name leads on from a directory and from nowhere else. -/
theorem entryAt_of_enter_eq_ok {name : String} (henter : d.enter place name = .ok next) :
    d.entryAt place = some .directory := by
  unfold enter at henter
  split at henter
  · cases henter
  · cases henter
  · assumption

/-- A name leads from a directory to the same place on every disk with the directory. -/
theorem enter_mono (hdirectories : ∀ place, d.entryAt place = some .directory →
    d'.entryAt place = some .directory) {name : String} (henter : d.enter place name = .ok next) :
    d'.enter place name = .ok next := by
  have hplace := entryAt_of_enter_eq_ok henter
  simp only [enter, hplace] at henter
  simpa only [enter, hdirectories place hplace] using henter

/-- Names lead to the same place on every disk with the directories that they lead through. -/
theorem foldlM_enter_mono (hdirectories : ∀ place, d.entryAt place = some .directory →
    d'.entryAt place = some .directory) {names : List String}
    (hnames : names.foldlM d.enter place = .ok next) : names.foldlM d'.enter place = .ok next := by
  induction names generalizing place with
  | nil => exact hnames
  | cons name names ih =>
    rw [List.foldlM_cons] at hnames ⊢
    obtain ⟨middle, henter, hrest⟩ := bind_eq_ok.mp hnames
    exact bind_eq_ok.mpr ⟨middle, enter_mono hdirectories henter, ih hrest⟩

/-- A text that is no path fails on every disk alike, and every other text is walked along. -/
theorem locate_cases (path : String) :
    (∃ cause, cause ≠ .isDirectory ∧ ∀ d : Disk, d.locate path = .error cause) ∨
      ∀ d : Disk, d.locate path = (Path.names path).foldlM d.enter (Path.start path) := by
  unfold locate walk
  split
  · exact Or.inl ⟨.nulInName, by decide, fun _ => rfl⟩
  · split
    · exact Or.inl ⟨.notFound, by decide, fun _ => rfl⟩
    · split
      · exact Or.inl ⟨.nameTooLong, by decide, fun _ => rfl⟩
      · exact Or.inr fun _ => rfl

/-- A path denotes the same place on every disk with the directories that it leads through. -/
theorem locate_mono (hdirectories : ∀ place, d.entryAt place = some .directory →
    d'.entryAt place = some .directory) (hlocate : d.locate path = .ok place) :
    d'.locate path = .ok place := by
  rcases locate_cases path with ⟨cause, -, hfault⟩ | hwalk
  · cases (hfault d).symm.trans hlocate
  · rw [hwalk] at hlocate ⊢
    exact foldlM_enter_mono hdirectories hlocate

/-- A path that denotes no place does so for another reason than a directory. -/
theorem locate_ne_isDirectory : d.locate path ≠ .error .isDirectory := by
  intro hlocate
  rcases locate_cases path with ⟨cause, hcause, hfault⟩ | hwalk
  · exact hcause (Except.error.inj ((hfault d).symm.trans hlocate))
  · obtain ⟨name, -, place, henter⟩ := exists_error_of_foldlM ((hwalk d).symm.trans hlocate)
    unfold enter at henter
    split at henter
    · cases henter
    · cases henter
    · split at henter <;> cases henter

/-- What has been set stands at its place, if no directory stands there in any case. -/
theorem entryAt_set_self {entry : Option Entry} (hstanding : ¬ Path.isStanding place) :
    (d.set place entry).entryAt place = entry := by
  simp [entryAt, set, hstanding]

/-- Setting an entry changes one place only. -/
theorem entryAt_set_of_ne {entry : Option Entry} {other : Place} (hother : other ≠ place) :
    (d.set place entry).entryAt other = d.entryAt other := by
  simp [entryAt, set, hother]

/-- A file can be written at the place that its path denotes, if no directory stands there and the
path does not ask for one. -/
theorem target_eq_ok : d.target path = .ok place ↔ path.toList.getLast? ≠ some '/' ∧
    d.locate path = .ok place ∧ d.entryAt place ≠ some .directory := by
  constructor
  · intro htarget
    simp only [target] at htarget
    split at htarget
    · obtain ⟨_, -, herror⟩ := bind_eq_ok.mp htarget
      cases herror
    · rename_i hslash
      obtain ⟨found, hlocate, hfound⟩ := bind_eq_ok.mp htarget
      split at hfound
      · cases hfound
      · rename_i hdirectory
        obtain rfl := Except.ok.inj hfound
        exact ⟨hslash, hlocate, hdirectory⟩
  · rintro ⟨hslash, hlocate, hdirectory⟩
    simp only [target, if_neg hslash]
    exact bind_eq_ok.mpr ⟨place, hlocate, if_neg hdirectory⟩

/-- A write that works puts the content where a file can be written under the path. -/
theorem write_eq_ok (hwrite : d.write path content = (.ok (), d')) :
    ∃ place, d.target path = .ok place ∧
      d' = { d with faults := d.faults.drop 1 }.set place (some (.file content)) := by
  unfold write at hwrite
  simp only at hwrite
  split at hwrite
  · cases hwrite
  · split at hwrite
    · cases hwrite
    · rename_i place htarget
      exact ⟨place, htarget, (Prod.mk.inj hwrite).2.symm⟩

/-- Under the path of a written file stands a file with what was written. -/
theorem exists_locate_of_write (hwrite : d.write path content = (.ok (), d')) :
    ∃ place, d'.locate path = .ok place ∧ d'.entryAt place = some (.file content) := by
  obtain ⟨place, htarget, rfl⟩ := write_eq_ok hwrite
  obtain ⟨-, hlocate, hdirectory⟩ := target_eq_ok.mp htarget
  have hstanding : ¬ Path.isStanding place := fun h => hdirectory (if_pos h)
  refine ⟨place, locate_mono (fun other hother => ?_) hlocate, entryAt_set_self hstanding⟩
  have hne : other ≠ place := by
    rintro rfl
    exact hdirectory hother
  rw [entryAt_set_of_ne hne]
  exact hother

/-- A file that has been written can be written over, unless the next write is made to fail. -/
theorem write_of_write (hwrite : d.write path content = (.ok (), d'))
    (hfault : d'.faults.head?.join = none) (content' : List UInt8) :
    (d'.write path content').1 = .ok () := by
  obtain ⟨_, htarget, -⟩ := write_eq_ok hwrite
  obtain ⟨hslash, -⟩ := target_eq_ok.mp htarget
  obtain ⟨place, hlocate, hentry⟩ := exists_locate_of_write hwrite
  have hagain : d'.target path = .ok place := target_eq_ok.mpr ⟨hslash, hlocate, by simp [hentry]⟩
  unfold write
  split
  · rename_i e hhead
    rw [hhead] at hfault
    cases hfault
  · rw [hagain]

/-- A written file has the content that was written. -/
theorem read_of_write (hwrite : d.write path content = (.ok (), d')) :
    d'.read path = .ok content := by
  obtain ⟨place, hlocate, hentry⟩ := exists_locate_of_write hwrite
  simp only [read, hlocate, Except.bind, hentry]

/-- Something stands at a path whenever its content can be read, or a directory is in the way. -/
theorem contains_iff_read : d.contains path ↔
    (∃ content, d.read path = .ok content) ∨ d.read path = .error .isDirectory := by
  unfold contains read
  cases hlocate : d.locate path with
  | ok place =>
    simp only [Except.bind]
    split <;> simp_all
  | error cause =>
    have hcause : cause ≠ .isDirectory := by
      rintro rfl
      exact locate_ne_isDirectory hlocate
    simpa [Except.bind] using hcause

/-- Whether something stands at a path can be told from reading it. -/
theorem contains_congr (hread : d.read path = d'.read path) :
    d.contains path = d'.contains path :=
  Bool.eq_iff_iff.mpr (by rw [contains_iff_read, contains_iff_read, hread])

/-- A written text is read back. -/
theorem readText_of_write {text : String}
    (hwrite : d.write path (utf8 text.toList) = (.ok (), d')) : d'.readText path = .ok text := by
  simp only [readText, read_of_write hwrite, Except.bind, ofUtf8?_utf8]

/-- The disks have the same directories and files, whatever the files hold, and the same writes are
going to fail. -/
structure Alike (d d' : Disk) : Prop where
  entries_eq : ∀ place, (d'.entries place).map Entry.isDirectory =
    (d.entries place).map Entry.isDirectory
  faults_eq : d'.faults = d.faults

/-- Every disk is like itself. -/
theorem Alike.refl (d : Disk) : d.Alike d :=
  ⟨fun _ => rfl, rfl⟩

/-- At every place stands the same kind of entry. -/
theorem Alike.map_entryAt (halike : d.Alike d') (place : Place) :
    (d'.entryAt place).map Entry.isDirectory = (d.entryAt place).map Entry.isDirectory := by
  unfold entryAt
  split
  · rfl
  · exact halike.entries_eq place

/-- Directories stand at the same places. -/
theorem entryAt_eq_directory_iff : d.entryAt place = some .directory ↔
    (d.entryAt place).map Entry.isDirectory = some true := by
  cases d.entryAt place with
  | none => simp
  | some entry => cases entry <;> simp [Entry.isDirectory]

/-- Names lead to the same places. -/
theorem Alike.enter_eq (halike : d.Alike d') : d'.enter = d.enter := by
  funext place name
  have hentry := halike.map_entryAt place
  unfold enter
  cases hd : d.entryAt place with
  | none => simp_all
  | some entry =>
    cases hd' : d'.entryAt place with
    | none => simp_all
    | some entry' => cases entry <;> cases entry' <;> simp_all [Entry.isDirectory]

/-- Files can be written at the same places. -/
theorem Alike.target_eq (halike : d.Alike d') (path : String) : d'.target path = d.target path := by
  have hdirectory (place : Place) :
      d'.entryAt place = some .directory ↔ d.entryAt place = some .directory := by
    rw [entryAt_eq_directory_iff, entryAt_eq_directory_iff, halike.map_entryAt]
  simp only [target, locate, walk, halike.enter_eq, hdirectory]

/-- A write has the same outcome, whatever is written, and the disks stay alike. -/
theorem Alike.write (halike : d.Alike d') (path : String) (content content' : List UInt8) :
    (d'.write path content').1 = (d.write path content).1 ∧
      (d.write path content).2.Alike (d'.write path content').2 := by
  have hafter : Alike { d with faults := d.faults.drop 1 } { d' with faults := d'.faults.drop 1 } :=
    ⟨halike.entries_eq, congrArg (List.drop 1) halike.faults_eq⟩
  unfold Disk.write
  simp only [halike.faults_eq, halike.target_eq] at hafter ⊢
  split
  · exact ⟨rfl, hafter⟩
  · split
    · exact ⟨rfl, hafter⟩
    · rename_i place _
      refine ⟨rfl, fun other => ?_, rfl⟩
      by_cases hother : other = place
      · simp [set, hother, Entry.isDirectory]
      · simpa [set, hother] using halike.entries_eq other

end Disk

end Rollout
