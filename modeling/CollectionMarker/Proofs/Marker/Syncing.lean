import CollectionMarker.Proofs.Marker.Publication

/-! Syncing a directory as a question: it changes nothing and fails exactly as opening the path to read fails. A
directory that cannot be opened in this way has no marker either and cannot be given one, so none is reported as
tagged without having been synced. -/

namespace CollectionMarker.Marker

open FileSystem Procedure

variable {dir : String} {fs : FileSystem} {e : IoError}

theorem syncDirectory_keeps (dir : String) (fs : FileSystem) : ((syncDirectory dir).run fs).Keeps fs := by
  cases hopen : fs.openToRead dir with
  | error e =>
    rw [run_syncDirectory_of_error hopen]
    exact .replicate _ fs 1 []
  | ok handle =>
    rw [run_syncDirectory_of_ok hopen]
    exact .replicate _ fs 2 _

theorem syncDirectory_result (dir : String) (fs : FileSystem) :
    ((syncDirectory dir).run fs).result = (fs.openToRead dir).map fun _ => () := by
  cases hopen : fs.openToRead dir with
  | error e => rw [run_syncDirectory_of_error hopen, Except.map]
  | ok handle => rw [run_syncDirectory_of_ok hopen, Except.map]

/-- The text leads to a device, and this is the error that says that there is nothing to sync. -/
def Unsyncable (dir : String) (fs : FileSystem) (e : IoError) : Prop :=
  ∃ which, fs.openToRead dir = .ok (.device which) ∧ sync (.device which) = .error e ∧ e.meansUnsupported = true

theorem syncDirectory_events_cases (dir : String) (fs : FileSystem) :
    (∃ e, Unsyncable dir fs e ∧ ((syncDirectory dir).run fs).events = [.syncUnsupported dir e]) ∨
    (¬∃ e, Unsyncable dir fs e) ∧ ((syncDirectory dir).run fs).events = [] := by
  by_cases h : ∃ e, Unsyncable dir fs e
  · left
    obtain ⟨e, which, hopen, hsync, hmeans⟩ := h
    refine ⟨e, ⟨which, hopen, hsync, hmeans⟩, ?_⟩
    rw [run_syncDirectory_of_ok hopen]
    simp only [syncEvents, hsync]
  · refine .inr ⟨h, ?_⟩
    cases hopen : fs.openToRead dir with
    | error e => rw [run_syncDirectory_of_error hopen]
    | ok handle =>
      rw [run_syncDirectory_of_ok hopen]
      cases handle with
      | directory | file => rfl
      | device which => exact absurd ⟨_, which, hopen, rfl, rfl⟩ h

/-- Under a text that cannot be opened no marker is found, and none can be published. -/
theorem admits_of_unopened (hdir : dir ≠ "") (h : fs.openToRead dir = .error e) (c : Collection) :
    (∃ e', ((admits dir c).run fs).result = .error (.io e')) ∧ ((admits dir c).run fs).Keeps fs := by
  have hmarker (marker : Handle) : fs.openToRead (path dir) ≠ .ok marker := by
    intro hopen
    obtain ⟨p, hdirectory⟩ := exists_openToRead_of_resolve isName_name hdir (openToRead_eq_ok_iff.1 hopen)
    simp [h] at hdirectory
  rw [run_admits]
  have hsettled := settled dir c fs
  generalize (settle dir c).run fs = outcome at hsettled ⊢
  cases hsettled with
  | checked found =>
    obtain ⟨marker, hopen, -⟩ := reading_eq_some_iff.1 found
    exact absurd hopen (hmarker marker)
  | @unread f n found =>
    rcases reading_eq_error_iff.1 found with ⟨marker, hopen, -⟩ | ⟨e', -, -, rfl⟩
    · exact absurd hopen (hmarker marker)
    · exact ⟨⟨e', rfl⟩, .replicate _ fs n []⟩
  | @withheld e' n => exact ⟨⟨e', rfl⟩, .replicate _ fs n []⟩
  | published _ publication =>
    have hdirectory := publication.site.openToRead hdir
    simp [h] at hdirectory

/-- Syncing a path changes nothing, succeeds exactly if the path can be opened to read, and fails with the error of
that opening. It logs one event exactly if the path leads to a device that cannot be synced, and else none. Where it
fails, a check under the same text fails as well, with an error of the file system, and has changed nothing. -/
theorem sync_fails_as_opening (dir : String) (fs : FileSystem) :
    ((syncDirectory dir).run fs).Keeps fs ∧
    (((syncDirectory dir).run fs).result = .ok () ↔ ∃ handle, fs.openToRead dir = .ok handle) ∧
    (∀ e, ((syncDirectory dir).run fs).result = .error e ↔ fs.openToRead dir = .error e) ∧
    ((∃ e, Unsyncable dir fs e ∧ ((syncDirectory dir).run fs).events = [.syncUnsupported dir e]) ∨
      (¬∃ e, Unsyncable dir fs e) ∧ ((syncDirectory dir).run fs).events = []) ∧
    (∀ event ∈ ((syncDirectory dir).run fs).events, event.severity = .debug) ∧
    (dir ≠ "" → ∀ e, ((syncDirectory dir).run fs).result = .error e → ∀ c,
      (∃ e', ((admits dir c).run fs).result = .error (.io e')) ∧ ((admits dir c).run fs).Keeps fs) := by
  have herror (e : IoError) :
      ((syncDirectory dir).run fs).result = .error e ↔ fs.openToRead dir = .error e := by
    rw [syncDirectory_result]
    cases fs.openToRead dir <;> simp [Except.map]
  refine ⟨syncDirectory_keeps dir fs, ?_, herror, syncDirectory_events_cases dir fs, ?_, ?_⟩
  · rw [syncDirectory_result]
    cases fs.openToRead dir <;> simp [Except.map]
  · rcases syncDirectory_events_cases dir fs with ⟨e, -, hevents⟩ | ⟨-, hevents⟩
    · simp [hevents, Event.severity]
    · simp [hevents]
  · intro hdir e hsync c
    exact admits_of_unopened hdir ((herror e).1 hsync) c

example : ((syncDirectory "/dev/null").run .initial).events =
      [.syncUnsupported "/dev/null" (.system .invalidArgument)] ∧
    ((syncDirectory "lost").run .initial).result = .error (.system .noEntry) := by
  decide +kernel

end CollectionMarker.Marker
