import FieldSearch.Cli.Program
import FieldSearch.Proofs.Store.Growth
import Mathlib

/-!
# What a folder keeps of a store

A run takes a database out of a folder under a path and puts it back when it is
done.  Under the same path it is found again as it was put back, except that a
database without a file, and one in the file that keeps nothing, is new every time.
Directories are not among the files of a folder, so that they are the same whatever
is put there.

## Main results

* `isDirectory_eq`: which paths lead to directories.
* `store_save`: what is found of a store that was saved.
-/

namespace FieldSearch

/-- The database of the store outlives it: it has a file, and one that keeps what is written. -/
def FileStore.IsKept (files : FileStore) : Prop :=
  ∃ file, files.location.file = some file ∧ Cli.Path.plain file ≠ Cli.nullDevice

namespace Cli

/-! ## Directories -/

/-- The place is a directory. -/
def Place.IsDirectory : Place → Prop
  | .file _ => False
  | _ => True

namespace Folder

variable {folder : Folder} {path : String}

/-- Among the directories of the system the files of a folder play no part. -/
theorem step_system (folder other : Folder) (names : List String) (part : String) :
    folder.step (.system names) part = other.step (.system names) part := by
  unfold step
  repeat' split
  all_goals first | rfl | contradiction

/-- A step to a directory starts at one, and is the same in every folder. -/
theorem step_directory {place next : Place} {part : String}
    (h : folder.step place part = .ok next) (hNext : next.IsDirectory) :
    place.IsDirectory ∧ ∀ other : Folder, other.step place part = .ok next := by
  cases place with
  | file contents => cases h
  | around => exact ⟨trivial, fun _ => h⟩
  | system names => exact ⟨trivial, fun other => (step_system other folder names part).trans h⟩
  | folder =>
      refine ⟨trivial, fun other => ?_⟩
      unfold step at h ⊢
      dsimp only at h ⊢
      split_ifs at h ⊢
      · exact h
      · exact h
      -- Only a file of the folder could be reached by its name.
      · split at h
        · obtain rfl := Except.ok.inj h
          exact hNext.elim
        · cases h

theorem foldlM_step_directory {parts : List String} {place next : Place}
    (h : parts.foldlM folder.step place = .ok next) (hNext : next.IsDirectory) :
    place.IsDirectory ∧ ∀ other : Folder, parts.foldlM other.step place = .ok next := by
  induction parts generalizing place with
  | nil =>
      obtain rfl := Except.ok.inj h
      exact ⟨hNext, fun _ => rfl⟩
  | cons part rest ih =>
      rw [List.foldlM_cons] at h
      obtain ⟨middle, hStep, hRest⟩ := bind_eq_ok.mp h
      obtain ⟨hMiddle, hOthers⟩ := ih hRest
      obtain ⟨hPlace, hSteps⟩ := step_directory hStep hMiddle
      refine ⟨hPlace, fun other => ?_⟩
      rw [List.foldlM_cons]
      exact bind_eq_ok.mpr ⟨middle, hSteps other, hOthers other⟩

theorem walk_directory {place : Place} (h : folder.walk path = .ok place)
    (hPlace : place.IsDirectory) (other : Folder) : other.walk path = .ok place := by
  rw [walk] at h ⊢
  split_ifs at h ⊢
  all_goals exact (foldlM_step_directory h hPlace).2 other

theorem isDirectory_iff {name : String} : folder.isDirectory name = true ↔
    ∃ place, folder.walk (if name.isEmpty then "." else name) = .ok place ∧ place.IsDirectory := by
  rw [isDirectory]
  cases folder.walk (if name.isEmpty then "." else name) with
  | error fault => simp
  | ok place => cases place <;> simp [Place.IsDirectory]

/-- **Which paths lead to directories** does not depend on the files of a folder. -/
theorem isDirectory_eq (folder other : Folder) (name : String) :
    folder.isDirectory name = other.isDirectory name := by
  rw [Bool.eq_iff_iff, isDirectory_iff, isDirectory_iff]
  constructor
  · rintro ⟨place, hWalk, hPlace⟩
    exact ⟨place, walk_directory hWalk hPlace other, hPlace⟩
  · rintro ⟨place, hWalk, hPlace⟩
    exact ⟨place, walk_directory hWalk hPlace folder, hPlace⟩

/-! ## Databases -/

variable {file : String} {last : FileStore}

/-- A store in a file that can be opened. -/
theorem store_of_contents {database : Database}
    (hFile : (FileStore.ofPath path {}).location.file = some file)
    (hContents : folder.contents path (Path.plain file)
      (FileStore.ofPath path {}).location.access = .ok database)
    (hLog : folder.logFault? (Path.plain file) (FileStore.ofPath path {}).location = none) :
    folder.store path = { FileStore.ofPath path {} with database } := by
  unfold store
  simp only [hFile, hContents, hLog]

@[simp]
theorem location_store (folder : Folder) (path : String) :
    (folder.store path).location = (FileStore.ofPath path {}).location := by
  unfold store
  dsimp only
  repeat' split
  all_goals rfl

@[simp]
theorem options_store (folder : Folder) (path : String) : (folder.store path).options = {} := by
  have hPath : (FileStore.ofPath path {}).options = {} := by
    unfold FileStore.ofPath
    split <;> rfl
  unfold store
  dsimp only
  repeat' split
  all_goals exact hPath

/-- What is known of a store in a file that could be opened. -/
theorem contents_of_store (hFile : (FileStore.ofPath path {}).location.file = some file)
    (hRefusal : (folder.store path).refusal = none) :
    ∃ database, folder.store path = { FileStore.ofPath path {} with database } ∧
      folder.contents path (Path.plain file) (FileStore.ofPath path {}).location.access =
        .ok database ∧
      folder.logFault? (Path.plain file) (FileStore.ofPath path {}).location = none := by
  unfold store at hRefusal ⊢
  simp only [hFile] at hRefusal ⊢
  split at hRefusal
  · cases hRefusal
  · cases hRefusal
  next database hContents hLog =>
    rw [hContents, hLog]
    exact ⟨database, rfl, rfl, rfl⟩

/-! ## Saving -/

/-- How a store is saved: as an empty file, if it has no tables and no log, or as a database. -/
theorem save_cases (folder : Folder) (hFile : last.location.file = some file)
    (hRefusal : last.refusal = none) :
    (last.database.tables = [] ∧ last.location.keepsLog = false ∧
        folder.save last =
          { folder with texts := (Path.plain file, "") :: folder.texts }) ∨
      folder.save last =
        { folder with
          logged :=
            if last.location.keepsLog then Path.plain file :: folder.logged else folder.logged
          databases := (Path.plain file, last.database) ::
            folder.databases.filter fun entry => entry.1 != Path.plain file } := by
  unfold save
  simp only [hFile, hRefusal]
  cases hKeeps : last.location.keepsLog with
  | true =>
      -- A database with a log is among those that have one.
      rw [if_pos rfl, if_neg (by simp)]
      exact .inr rfl
  | false =>
      rw [if_neg Bool.false_ne_true]
      split_ifs with hEmpty
      · exact .inl ⟨List.isEmpty_iff.mp (Bool.and_eq_true_iff.mp hEmpty).1, rfl, rfl⟩
      · exact .inr rfl

/-- A store that was saved can be opened again as far as its log is concerned. -/
theorem logFault?_save (hFile : last.location.file = some file) (hRefusal : last.refusal = none)
    (hLog : folder.logFault? (Path.plain file) last.location = none) :
    (folder.save last).logFault? (Path.plain file) last.location = none := by
  rcases folder.save_cases hFile hRefusal with ⟨-, -, hSave⟩ | hSave
  · rw [hSave]
    exact hLog
  · rw [hSave]
    unfold logFault? at hLog ⊢
    dsimp only at hLog ⊢
    by_cases hKeeps : last.location.keepsLog = true
    · rw [if_pos hKeeps] at hLog ⊢
      by_cases hLong : maxLoggedName < (Path.plain file).utf8ByteSize
      · rw [if_pos hLong] at hLog
        cases hLog
      · rw [if_neg hLong, if_pos hKeeps, if_pos (by simp)]
    · rw [if_neg hKeeps] at hLog ⊢
      rw [if_neg hKeeps]
      exact hLog

/-- What a file holds that can be read as a database. -/
theorem contents_eq_ok {name : String} {access : Access} {database : Database}
    (hName : name ≠ nullDevice) :
    folder.contents path name access = .ok database ↔
      ¬ (folder.isDirectory name && decide (access = .readOnly)) = true ∧
        ¬ (!folder.holds name) = true ∧
        (folder.file? name = some (.database database) ∨
          database = .empty ∧ (folder.file? name = some (.text "") ∨
            folder.file? name = none ∧ access = .create)) := by
  rw [contents, if_neg (by simpa using hName)]
  by_cases hDirectory : (folder.isDirectory name && decide (access = .readOnly)) = true
  · rw [if_pos hDirectory]
    exact iff_of_false nofun fun h => h.1 hDirectory
  rw [if_neg hDirectory]
  by_cases hHolds : (!folder.holds name) = true
  · rw [if_pos hHolds]
    exact iff_of_false nofun fun h => h.2.1 hHolds
  rw [if_neg hHolds, and_iff_right hDirectory, and_iff_right hHolds]
  cases hFile : folder.file? name with
  | none => by_cases hCreate : access = .create <;> simp [hCreate, pure, Except.pure, eq_comm]
  | some contents =>
      cases contents with
      | database other => simp [pure, Except.pure]
      | text text =>
          by_cases hText : text = ""
          · subst hText
            refine ⟨fun h => .inr ⟨(Except.ok.inj h).symm, .inl rfl⟩, ?_⟩
            rintro (h | ⟨rfl, -⟩)
            · cases h
            · rfl
          · simp [hText, String.isEmpty_iff]

/-- What is found of a database under the name that it was saved under. -/
theorem contents_save (hFile : last.location.file = some file) (hRefusal : last.refusal = none)
    {access : Access} {before : Database} (hGrows : before.Grows last.database)
    (hName : Path.plain file ≠ nullDevice)
    (hContents : folder.contents path (Path.plain file) access = .ok before) :
    (folder.save last).contents path (Path.plain file) access = .ok last.database := by
  rw [contents_eq_ok hName] at hContents ⊢
  obtain ⟨hDirectory, hHolds, hFound⟩ := hContents
  rw [isDirectory_eq folder (folder.save last)] at hDirectory
  refine ⟨hDirectory, ?_, ?_⟩
  · rcases folder.save_cases hFile hRefusal with ⟨-, -, hSave⟩ | hSave <;> rwa [hSave]
  · rcases folder.save_cases hFile hRefusal with ⟨hEmpty, -, hSave⟩ | hSave
    · -- Nothing was done to a database that is still without tables.
      have hSame : last.database = before := by
        rcases hGrows.told with hSame | ⟨hTables, -⟩
        · exact hSame
        · exact absurd hEmpty hTables
      rw [hSave, hSame]
      cases hDatabase : folder.databases.lookup (Path.plain file) with
      | some database =>
          have hOld : folder.file? (Path.plain file) = some (.database database) := by
            rw [file?, hDatabase]
            rfl
          rw [hOld] at hFound
          rw [file?, hDatabase]
          exact hFound
      | none =>
          refine .inr ⟨?_, .inl ?_⟩
          · rcases hFound with hOld | ⟨hBefore, -⟩
            · rw [file?, hDatabase, Option.map_none, Option.none_or] at hOld
              obtain ⟨text, -, hText⟩ := Option.map_eq_some_iff.mp hOld
              cases hText
            · exact hBefore
          · rw [file?, hDatabase]
            simp
    · left
      rw [hSave, file?]
      simp

/-- A store of a file that was opened is there again when it was saved, with the database that is
found. -/
theorem store_save_eq (hFile : (FileStore.ofPath path {}).location.file = some file)
    (hRefusal : (folder.store path).refusal = none) (hBecomes : (folder.store path).Becomes last)
    {database : Database}
    (hContents : (folder.save last).contents path (Path.plain file)
      (FileStore.ofPath path {}).location.access = .ok database) :
    (folder.save last).store path = { folder.store path with database } := by
  obtain ⟨before, hStore, -, hLog⟩ := contents_of_store hFile hRefusal
  have hLocation : last.location = (FileStore.ofPath path {}).location := by
    rw [hBecomes.same, location_store]
  have hLast : last.refusal = none := by
    rw [hBecomes.same, hRefusal]
  rw [← hLocation] at hFile hLog
  have hStill := logFault?_save hFile hLast hLog
  rw [hLocation] at hFile hStill
  rw [store_of_contents hFile hContents hStill, hStore]

/-- **What is found of a store that was saved**: its database as it was left. -/
theorem store_save (hKept : (folder.store path).IsKept)
    (hRefusal : (folder.store path).refusal = none) (hBecomes : (folder.store path).Becomes last) :
    (folder.save last).store path = { folder.store path with database := last.database } := by
  obtain ⟨file, hFile, hName⟩ := hKept
  have hLast : last.location.file = some file ∧ last.refusal = none := by
    rw [hBecomes.same]
    exact ⟨hFile, hRefusal⟩
  rw [location_store] at hFile
  obtain ⟨before, hStore, hContents, -⟩ := contents_of_store hFile hRefusal
  have hGrows := hBecomes.grows
  rw [hStore] at hGrows
  exact store_save_eq hFile hRefusal hBecomes
    (contents_save hLast.1 hLast.2 hGrows hName hContents)

/-- A database of which nothing is kept is found as if it had not been saved. -/
theorem store_save_of_not_isKept (hKept : ¬ (folder.store path).IsKept)
    (hRefusal : (folder.store path).refusal = none) (hBecomes : (folder.store path).Becomes last) :
    (folder.save last).store path = folder.store path := by
  cases hFile : (FileStore.ofPath path {}).location.file with
  | none =>
      rw [save_transient]
      rw [hBecomes.same, location_store, hFile]
  | some file =>
      have hName : Path.plain file = nullDevice := by
        by_contra hName
        exact hKept ⟨file, (location_store folder path).symm ▸ hFile, hName⟩
      obtain ⟨before, hStore, hContents, -⟩ := contents_of_store hFile hRefusal
      rw [contents, if_pos (beq_iff_eq.mpr hName)] at hContents
      have hAgain : (folder.save last).contents path (Path.plain file)
          (FileStore.ofPath path {}).location.access = .ok .empty := by
        rw [contents, if_pos (beq_iff_eq.mpr hName)]
        rfl
      rw [store_save_eq hFile hRefusal hBecomes hAgain, hStore, ← Except.ok.inj hContents]

/-- **What is found of a store that was saved**, whether or not its database is kept. -/
theorem found_of_save (hRefusal : (folder.store path).refusal = none)
    (hBecomes : (folder.store path).Becomes last) :
    ∃ database, (folder.save last).store path = { folder.store path with database } ∧
      (folder.store path).database.Grows database ∧
      ((folder.store path).IsKept → database = last.database) ∧
      (¬ (folder.store path).IsKept → database = (folder.store path).database) := by
  by_cases hKept : (folder.store path).IsKept
  · exact ⟨last.database, store_save hKept hRefusal hBecomes, hBecomes.grows, fun _ => rfl,
      absurd hKept⟩
  · exact ⟨(folder.store path).database, store_save_of_not_isKept hKept hRefusal hBecomes,
      .refl _, fun h => absurd h hKept, fun _ => rfl⟩

end Folder
end Cli
end FieldSearch
