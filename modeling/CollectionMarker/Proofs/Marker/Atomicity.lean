import CollectionMarker.Proofs.Marker.Publication

/-! A check that fails has changed nothing. The empty text is the exception: it names no directory that
could be opened to be synced, so its marker is already shown when that fails, as the dot's would be. -/

namespace CollectionMarker.Marker

open FileSystem CollectionMarker.Path Procedure

variable {dir text : String} {fs : FileSystem} {c stored : Collection} {f : Failure}

/-! ## The empty text and the dot -/

theorem resolve_join_dot (h : IsName text) (hacc : Accepted (join "." text))
    (hacc' : Accepted (join "" text)) (purpose : Purpose) (fs : FileSystem) :
    fs.resolve purpose (join "." text) = fs.resolve purpose (join "" text) := by
  rw [resolve_eq hacc, resolve_eq hacc', parse_join h, parse_join h]
  rfl

theorem slot_join_dot (h : IsName text) (fs : FileSystem) :
    fs.slot (parse (join "." text)) = fs.slot (parse (join "" text)) := by
  rw [parse_join h, parse_join h]
  rfl

theorem accepted_dot : Accepted (path ".") ∧ Accepted (stagingPath ".") :=
  ⟨⟨by decide, by decide, by decide⟩, by decide, by decide, by decide⟩

theorem accepted_empty : Accepted (path "") ∧ Accepted (stagingPath "") :=
  ⟨⟨by decide, by decide, by decide⟩, by decide, by decide, by decide⟩

theorem rename_dot (fs : FileSystem) :
    fs.rename (stagingPath ".") (path ".") = fs.rename (stagingPath "") (path "") :=
  rename_congr accepted_empty.2 accepted_empty.1 accepted_dot.2 accepted_dot.1
    (slot_join_dot isName_stagingName fs) (slot_join_dot isName_name fs)

theorem install_dot (c : Collection) : install "." c = install "" c := by
  have hopen (fs : FileSystem) : fs.openToWrite (stagingPath ".") mode =
      fs.openToWrite (stagingPath "") mode := by
    have hresolve : fs.resolve .create (stagingPath ".") = fs.resolve .create (stagingPath "") :=
      resolve_join_dot isName_stagingName accepted_dot.2 accepted_empty.2 .create fs
    simp only [openToWrite, hresolve]
  simp only [install, hopen, rename_dot]

theorem reading_dot (fs : FileSystem) : reading "." fs = reading "" fs := by
  have hresolve : fs.resolve .find (path ".") = fs.resolve .find (path "") :=
    resolve_join_dot isName_name accepted_dot.1 accepted_empty.1 .find fs
  unfold reading openToRead
  rw [hresolve]

theorem syncDirectory_files (dir : String) (fs : FileSystem) :
    ((syncDirectory dir).run fs).files = fs := by
  cases hopen : fs.openToRead dir with
  | error e => rw [run_syncDirectory_of_error hopen]
  | ok handle => rw [run_syncDirectory_of_ok hopen]

theorem publish_files (dir : String) (c : Collection) (fs : FileSystem) :
    ((publish dir c).run fs).files = ((install dir c).run fs).files := by
  rw [publish_eq]
  cases hinstall : (install dir c).run fs with
  | mk result after passed events =>
    cases result with
    | error e => rw [run_bind_error hinstall]
    | ok => rw [run_bind_ok hinstall]; exact syncDirectory_files dir after

/-- Settling changes the same under the empty text as under the dot. -/
theorem settle_files_empty (c : Collection) (fs : FileSystem) :
    ((settle "" c).run fs).files = ((settle "." c).run fs).files := by
  rcases hreading : reading "" fs with f | - | stored
  · obtain ⟨n, hrun⟩ := run_settle_of_error hreading c
    obtain ⟨n', hrun'⟩ := run_settle_of_error ((reading_dot fs).trans hreading) c
    rw [hrun, hrun']
  · rw [settle_files_of_none hreading, settle_files_of_none ((reading_dot fs).trans hreading),
      publish_files, publish_files, install_dot]
  · rw [run_settle_of_some hreading c, run_settle_of_some ((reading_dot fs).trans hreading) c]

/-! ## Failures -/

/-- Under a text that names a directory, settling changes something only to record the requested
collection, and then it succeeds. -/
theorem settle_keeps_or_records (hdir : dir ≠ "") (c : Collection) (fs : FileSystem) :
    ((settle dir c).run fs).Keeps fs ∨ ((settle dir c).run fs).result = .ok c := by
  have hsettled := settled dir c fs
  generalize (settle dir c).run fs = outcome at hsettled ⊢
  cases hsettled with
  | checked => exact .inl ⟨rfl, by simp⟩
  | @unread _ n => exact .inl (.replicate _ fs n [])
  | @withheld _ n => exact .inl (.replicate _ fs n [])
  | published => exact .inr (if_neg hdir)

theorem admits_keeps_of_error (hdir : dir ≠ "") (h : ((admits dir c).run fs).result = .error f) :
    ((admits dir c).run fs).Keeps fs := by
  rw [run_admits] at h ⊢
  rcases settle_keeps_or_records hdir c fs with hkeeps | hok
  · exact ⟨hkeeps.1, hkeeps.2⟩
  · rw [hok] at h
    cases h

theorem require_keeps_of_error (hdir : dir ≠ "") (h : ((require dir c).run fs).result = .error f) :
    ((require dir c).run fs).Keeps fs := by
  rw [run_require] at h ⊢
  rcases settle_keeps_or_records hdir c fs with hkeeps | hok
  · exact ⟨hkeeps.1, hkeeps.2⟩
  · simp [hok, Except.bind] at h

/-- A check of a named directory that fails has left every state as it was. Under the empty text a check
leaves what it leaves under the dot. -/
theorem failed_check_changes_nothing (dir : String) (c : Collection) (fs : FileSystem) :
    (dir ≠ "" →
      (∀ f, ((admits dir c).run fs).result = .error f → ((admits dir c).run fs).Keeps fs) ∧
      (∀ f, ((require dir c).run fs).result = .error f → ((require dir c).run fs).Keeps fs)) ∧
    (dir = "" →
      ((admits dir c).run fs).files = ((admits "." c).run fs).files ∧
      ((require dir c).run fs).files = ((require "." c).run fs).files) := by
  constructor
  · intro hdir
    exact ⟨fun f => admits_keeps_of_error hdir, fun f => require_keeps_of_error hdir⟩
  · rintro rfl
    rw [run_admits, run_admits, run_require, run_require]
    exact ⟨settle_files_empty c fs, settle_files_empty c fs⟩

end CollectionMarker.Marker
