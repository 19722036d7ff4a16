import CollectionMarker.Marker.Opening
import CollectionMarker.Proofs.Marker.Run

/-! What the ways into a directory have in common. All of them first read the marker, and what they
answer is a function of what is read, unless no marker is found. -/

namespace CollectionMarker.Marker

open Procedure

variable {dir : String} {fs : FileSystem} {c stored : Collection} {f : Failure}

def decoded (fs : FileSystem) (marker : Handle) : Except Failure Collection :=
  match fs.firstByte marker with
  | .ok byte => Collection.ofTag byte
  | .error e => .error (.io e)

def reading (dir : String) (fs : FileSystem) : Except Failure (Option Collection) :=
  match fs.openToRead (path dir) with
  | .ok marker => (decoded fs marker).map some
  | .error e => if e.kind = .notFound then .ok none else .error (.io e)

theorem reading_eq_none_iff : reading dir fs = .ok none ↔
    ∃ e, fs.openToRead (path dir) = .error e ∧ e.kind = .notFound := by
  unfold reading
  cases fs.openToRead (path dir) with
  | ok marker => cases h : decoded fs marker <;> simp [h, Except.map]
  | error e => by_cases hkind : e.kind = .notFound <;> simp [hkind]

theorem reading_eq_some_iff : reading dir fs = .ok (some stored) ↔
    ∃ marker, fs.openToRead (path dir) = .ok marker ∧ decoded fs marker = .ok stored := by
  unfold reading
  cases fs.openToRead (path dir) with
  | ok marker => cases h : decoded fs marker <;> simp [h, Except.map]
  | error e => by_cases hkind : e.kind = .notFound <;> simp [hkind]

theorem reading_eq_error_iff : reading dir fs = .error f ↔
    (∃ marker, fs.openToRead (path dir) = .ok marker ∧ decoded fs marker = .error f) ∨
    ∃ e, fs.openToRead (path dir) = .error e ∧ e.kind ≠ .notFound ∧ f = .io e := by
  unfold reading
  cases fs.openToRead (path dir) with
  | ok marker => cases h : decoded fs marker <;> simp [h, Except.map]
  | error e =>
    by_cases hkind : e.kind = .notFound
    · simp [hkind]
    · simpa [hkind] using eq_comm

/-- No error of reading compares collections. -/
theorem reading_ne_incompatible (h : reading dir fs = .error f) (named c : Collection) :
    f ≠ .incompatible named c := by
  rintro rfl
  rcases reading_eq_error_iff.1 h with ⟨marker, -, hdecoded⟩ | ⟨e, -, -, he⟩
  · unfold decoded Collection.ofTag at hdecoded
    split at hdecoded
    · split at hdecoded <;> cases hdecoded
    · cases hdecoded
  · cases he

theorem run_decode (marker : Handle) (fs : FileSystem) :
    (decode marker).run fs = ⟨decoded fs marker, fs, [fs], []⟩ := by
  have hbyte := run_mapError Failure.io (run_inspect (·.firstByte marker) fs)
  unfold decode decoded
  cases h : fs.firstByte marker with
  | ok byte =>
    rw [h] at hbyte
    rw [run_bind_ok hbyte]
    rfl
  | error e =>
    rw [h] at hbyte
    rw [run_bind_error hbyte]

/-- Looking for the marker, as the first step of every way in. -/
theorem run_look {ε : Type} (dir : String) (fs : FileSystem) :
    (attempt (inspect (·.openToRead (path dir))) : Procedure ε (Except IoError Handle)).run fs =
      ⟨.ok (fs.openToRead (path dir)), fs, [fs], []⟩ :=
  run_attempt (run_inspect _ fs)

theorem run_recorded (dir : String) (fs : FileSystem) :
    ∃ n, (recorded dir).run fs = ⟨reading dir fs, fs, List.replicate n fs, []⟩ := by
  unfold recorded
  rw [run_bind_ok (run_look dir fs)]
  unfold reading
  cases hopen : fs.openToRead (path dir) with
  | ok marker =>
    refine ⟨2, ?_⟩
    change ((decode marker >>= fun stored => pure (some stored)).run fs).behind [fs] [] = _
    cases hdecoded : decoded fs marker with
    | ok stored =>
      rw [run_bind_ok ((run_decode marker fs).trans (by rw [hdecoded]))]
      simp only [hdecoded]
      rfl
    | error f =>
      rw [run_bind_error ((run_decode marker fs).trans (by rw [hdecoded]))]
      simp only [hdecoded]
      rfl
  | error e =>
    refine ⟨1, ?_⟩
    by_cases hkind : e.kind = .notFound
    · simp only [if_pos hkind]
      rfl
    · simp only [if_neg hkind]
      rfl

theorem run_settle_of_some (h : reading dir fs = .ok (some stored)) (c : Collection) :
    (settle dir c).run fs = ⟨.ok stored, fs, [fs, fs], [.checked dir stored c]⟩ := by
  obtain ⟨marker, hopen, hdecoded⟩ := reading_eq_some_iff.1 h
  unfold settle
  rw [run_bind_ok (run_look dir fs)]
  simp only [hopen]
  rw [run_bind_ok ((run_decode marker fs).trans (by rw [hdecoded]))]
  rfl

theorem run_settle_of_error (h : reading dir fs = .error f) (c : Collection) :
    ∃ n, (settle dir c).run fs = ⟨.error f, fs, List.replicate n fs, []⟩ := by
  unfold settle
  rw [run_bind_ok (run_look dir fs)]
  rcases reading_eq_error_iff.1 h with ⟨marker, hopen, hdecoded⟩ | ⟨e, hopen, hkind, rfl⟩
  · refine ⟨2, ?_⟩
    simp only [hopen]
    rw [run_bind_error ((run_decode marker fs).trans (by rw [hdecoded]))]
    rfl
  · refine ⟨1, ?_⟩
    simp only [hopen, if_neg hkind]
    rfl

/-- Without a marker one is published, and that is logged if all went well. -/
theorem run_settle_of_none (h : reading dir fs = .ok none) (c : Collection) :
    (settle dir c).run fs = match (publish dir c).run fs with
      | ⟨.ok (), after, passed, events⟩ => ⟨.ok c, after, fs :: passed, events ++ [.tagged dir c]⟩
      | ⟨.error e, after, passed, events⟩ => ⟨.error (.io e), after, fs :: passed, events⟩ := by
  obtain ⟨e, hopen, hkind⟩ := reading_eq_none_iff.1 h
  unfold settle
  rw [run_bind_ok (run_look dir fs)]
  simp only [hopen, if_pos hkind]
  cases hpublish : (publish dir c).run fs with
  | mk result after passed events =>
    have hrun := run_mapError Failure.io hpublish
    cases result with
    | ok =>
      rw [run_bind_ok hrun]
      simp [Outcome.behind, run_bind_ok (run_log (.tagged dir c) after), run_pure]
    | error e =>
      rw [run_bind_error hrun]
      rfl

theorem settle_files_of_none (h : reading dir fs = .ok none) (c : Collection) :
    ((settle dir c).run fs).files = ((publish dir c).run fs).files := by
  rw [run_settle_of_none h]
  rcases (publish dir c).run fs with ⟨e | -, after, passed, events⟩ <;> rfl

theorem run_admits (dir : String) (c : Collection) (fs : FileSystem) :
    (admits dir c).run fs =
      ⟨((settle dir c).run fs).result.map (·.compatible c), ((settle dir c).run fs).files,
        ((settle dir c).run fs).passed, ((settle dir c).run fs).events⟩ := by
  cases hsettle : (settle dir c).run fs with
  | mk result after passed events =>
    unfold admits
    cases result with
    | ok stored =>
      rw [run_bind_ok hsettle]
      simp [Outcome.behind, run_pure, Except.map]
    | error f =>
      rw [run_bind_error hsettle]
      rfl

theorem run_require (dir : String) (c : Collection) (fs : FileSystem) :
    (require dir c).run fs =
      ⟨((settle dir c).run fs).result.bind fun stored =>
          if stored.compatible c then .ok () else .error (.incompatible stored c),
        ((settle dir c).run fs).files, ((settle dir c).run fs).passed,
        ((settle dir c).run fs).events⟩ := by
  cases hsettle : (settle dir c).run fs with
  | mk result after passed events =>
    unfold require
    cases result with
    | ok stored =>
      rw [run_bind_ok hsettle]
      by_cases hcompatible : stored.compatible c
      · simp [Outcome.behind, hcompatible, run_pure, Except.bind]
      · simp [Outcome.behind, hcompatible, run_fail, Except.bind]
    | error f =>
      rw [run_bind_error hsettle]
      rfl

/-! ## The ways in agree -/

theorem recorded_result (dir : String) (fs : FileSystem) :
    ((recorded dir).run fs).result = reading dir fs := by
  obtain ⟨n, hrun⟩ := run_recorded dir fs
  rw [hrun]

theorem recorded_keeps (dir : String) (fs : FileSystem) : ((recorded dir).run fs).Keeps fs := by
  obtain ⟨n, hrun⟩ := run_recorded dir fs
  rw [hrun]
  exact .replicate _ fs n []

/-- A settling that keeps the state and what the two checks make of it. -/
theorem checks_keep {r : Except Failure Collection} {passed : List FileSystem} {events : List Event}
    (h : (settle dir c).run fs = ⟨r, fs, passed, events⟩) (hpassed : ∀ s ∈ passed, s = fs) :
    ((admits dir c).run fs).Keeps fs ∧ ((require dir c).run fs).Keeps fs := by
  rw [run_admits, run_require, h]
  exact ⟨⟨rfl, hpassed⟩, rfl, hpassed⟩

/-- What the two checks answer, and whether they change anything, is decided by what reading the marker
gives; where there is none they do the same and answer alike. -/
theorem checks_agree_with_recorded (dir : String) (c : Collection) (fs : FileSystem) :
    ((recorded dir).run fs).Keeps fs ∧
    (∀ f, ((recorded dir).run fs).result = .error f →
      ((admits dir c).run fs).Keeps fs ∧ ((admits dir c).run fs).result = .error f ∧
      ((require dir c).run fs).Keeps fs ∧ ((require dir c).run fs).result = .error f) ∧
    (∀ stored, ((recorded dir).run fs).result = .ok (some stored) →
      ((admits dir c).run fs).Keeps fs ∧
      ((admits dir c).run fs).result = .ok (stored.compatible c) ∧
      ((require dir c).run fs).Keeps fs ∧
      ((require dir c).run fs).result =
        if stored.compatible c then .ok () else .error (.incompatible stored c)) ∧
    (((recorded dir).run fs).result = .ok none →
      ((admits dir c).run fs).files = ((require dir c).run fs).files ∧
      ((((admits dir c).run fs).result = .ok true ∧ ((require dir c).run fs).result = .ok ()) ∨
      ∃ e, ((admits dir c).run fs).result = .error (.io e) ∧
        ((require dir c).run fs).result = .error (.io e))) := by
  rw [recorded_result]
  refine ⟨recorded_keeps dir fs, ?_, ?_, ?_⟩
  · intro f hreading
    obtain ⟨n, hsettle⟩ := run_settle_of_error hreading c
    obtain ⟨hadmits, hrequire⟩ := checks_keep hsettle fun s hs => List.eq_of_mem_replicate hs
    refine ⟨hadmits, ?_, hrequire, ?_⟩
    · rw [run_admits, hsettle]
      rfl
    · rw [run_require, hsettle]
      rfl
  · intro stored hreading
    have hsettle := run_settle_of_some hreading c
    obtain ⟨hadmits, hrequire⟩ := checks_keep hsettle (by simp)
    refine ⟨hadmits, ?_, hrequire, ?_⟩
    · rw [run_admits, hsettle]
      rfl
    · rw [run_require, hsettle]
      rfl
  · intro hreading
    have hsettle := run_settle_of_none hreading c
    rw [run_admits, run_require, hsettle]
    refine ⟨rfl, ?_⟩
    rcases (publish dir c).run fs with ⟨e | -, after, passed, events⟩
    · right
      exact ⟨e, rfl, rfl⟩
    · left
      constructor
      · simp [Except.map]
      · simp [Except.bind]

end CollectionMarker.Marker
