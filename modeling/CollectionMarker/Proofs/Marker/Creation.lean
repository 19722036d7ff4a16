import CollectionMarker.Proofs.Marker.Publication

/-! When a directory without a marker can be given one. Opening the staging file decides it: if that comes to
a regular file, through whatever links, then everything after it succeeds. Otherwise the call fails with the
error of that opening, or with the one that a device gives when it is written and synced. -/

namespace CollectionMarker.Marker

open FileSystem CollectionMarker.Path Procedure

variable {dir : String} {fs : FileSystem}

/-- Without a marker, a directory that has a name is admitted as soon as its marker is installed: no later
request fails. -/
theorem admits_of_missing (hdir : dir ≠ "") (hmissing : fs.Missing (path dir)) (c : Collection) :
    ((admits dir c).run fs).result =
      ((verdict (fs.openToWrite (stagingPath dir) mode)).mapError Failure.io).map fun _ => true := by
  have hnone := reading_eq_none_iff_missing.2 hmissing
  rw [run_admits, ← install_result hmissing c]
  have hsettled := settled dir c fs
  generalize (settle dir c).run fs = outcome at hsettled ⊢
  cases hsettled with
  | checked found | unread found => simp [hnone] at found
  | withheld _ failed =>
    rw [failed]
    rfl
  | published _ _ installed => simp [installed, hdir, Except.map, Except.mapError]

/-- All devices but the full one refuse to be synced in the way that a directory is forgiven for. -/
theorem meansUnsupported_of_ne_full {which : Device} (hfull : which ≠ .full) :
    (IoError.system (deviceRefusal which)).kind = .invalidInput ∧
      (IoError.system (deviceRefusal which)).meansUnsupported = true := by
  cases which <;> first | exact absurd rfl hfull | exact ⟨rfl, rfl⟩

/-- A directory without a marker is admitted exactly if opening the staging file comes to a regular file.
Otherwise the call fails, with the error of the opening as it is, or for want of space on a full device, or
because the other devices cannot be synced: an error that a directory's sync would have passed over. -/
theorem creation_succeeds_iff_staging_opens_file (hdir : dir ≠ "")
    (hmarker : ∃ e, fs.openToRead (path dir) = .error e ∧ e.kind = .notFound) (c : Collection) :
    (((admits dir c).run fs).result = .ok true ↔
      ∃ id opened, fs.openToWrite (stagingPath dir) mode = .ok (.file id, opened)) ∧
    (((admits dir c).run fs).result = .ok true ∨ ∃ e, ((admits dir c).run fs).result = .error (.io e)) ∧
    (∀ e, fs.openToWrite (stagingPath dir) mode = .error e →
      ((admits dir c).run fs).result = .error (.io e) ∧ e.kind ∈ lookupErrorKinds) ∧
    (∀ opened, fs.openToWrite (stagingPath dir) mode = .ok (.device .full, opened) →
      ∃ e, ((admits dir c).run fs).result = .error (.io e) ∧ e.kind = .storageFull) ∧
    (∀ which opened, which ≠ .full →
      fs.openToWrite (stagingPath dir) mode = .ok (.device which, opened) →
      ∃ e, ((admits dir c).run fs).result = .error (.io e) ∧ e.kind = .invalidInput ∧
        e.meansUnsupported = true) := by
  have hmissing := missing_iff.2 hmarker
  rw [admits_of_missing hdir hmissing c]
  have hnul : '\x00' ∉ (stagingPath dir).toList := by
    have hpath := hmissing.nul_not_mem
    rw [path, nul_mem_join_iff isName_name] at hpath
    rwa [stagingPath, nul_mem_join_iff isName_stagingName]
  cases hopen : fs.openToWrite (stagingPath dir) mode with
  | error e =>
    have hkind := openToWrite_error_kind hnul hopen
    simp [verdict, Except.map, Except.mapError, hkind]
  | ok opening =>
    obtain ⟨handle, opened⟩ := opening
    cases handle with
    | directory => exact absurd hopen openToWrite_ne_directory
    | file id => simp [verdict, Except.map, Except.mapError]
    | device which =>
      refine ⟨by simp [verdict, Except.map, Except.mapError], .inr ⟨_, rfl⟩, by simp, ?_, ?_⟩
      · rintro _ ⟨⟩
        exact ⟨_, rfl, rfl⟩
      · rintro _ _ hfull ⟨⟩
        exact ⟨_, rfl, meansUnsupported_of_ne_full hfull⟩

/-- The working directory with a link to a link under the staging name. -/
def chained (target : String) : FileSystem :=
  (FileSystem.initial.addNode ["GOQUE.tmp", "work"] (.link "far")).addNode ["far", "work"] (.link target)

/-- A new file at the end of the links is as good as any, and the null device is not. -/
theorem creation_succeeds_iff_staging_opens_file_chained :
    (∃ e, (chained "near").openToRead (path ".") = .error e ∧ e.kind = .notFound) ∧
    ((admits "." .queue).run (chained "near")).result = .ok true ∧
    (∃ e, (chained "/dev/null").openToRead (path ".") = .error e ∧ e.kind = .notFound) ∧
    ∃ e, ((admits "." .queue).run (chained "/dev/null")).result = .error (.io e) ∧
      e.kind = .invalidInput ∧ e.meansUnsupported = true := by
  have hnear : ∃ e, (chained "near").openToRead (path ".") = .error e ∧ e.kind = .notFound :=
    ⟨.system .noEntry, by decide +kernel, rfl⟩
  have hnull : ∃ e, (chained "/dev/null").openToRead (path ".") = .error e ∧ e.kind = .notFound :=
    ⟨.system .noEntry, by decide +kernel, rfl⟩
  have hfile : (chained "near").openToWrite (stagingPath ".") mode =
      .ok (.file 5, (chained "near").addNode ["near", "work"] (.file mode [])) := by decide +kernel
  have hdevice : (chained "/dev/null").openToWrite (stagingPath ".") mode =
      .ok (.device .null, chained "/dev/null") := by decide +kernel
  exact ⟨hnear, (creation_succeeds_iff_staging_opens_file (by decide) hnear .queue).1.2 ⟨_, _, hfile⟩, hnull,
    (creation_succeeds_iff_staging_opens_file (by decide) hnull .queue).2.2.2.2 .null _ (by decide) hdevice⟩

end CollectionMarker.Marker
