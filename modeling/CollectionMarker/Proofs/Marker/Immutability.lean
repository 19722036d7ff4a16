import CollectionMarker.Proofs.Marker.Call
import CollectionMarker.Proofs.Marker.Publication

/-! Whether a recorded marker stays while other directories are opened. Every publication empties and
writes the file that its staging name leads to, through links and whatever other names that file has. A
marker that is read from this very file is written over; any other stays. -/

namespace CollectionMarker.Marker

open FileSystem CollectionMarker.Path Procedure

variable {a b : String} {fs after : FileSystem} {c stored : Collection} {s : Stages} {t : Target}

/-- The staging name in `b` leads to the file that the marker of `a` is read from. -/
def StagedOver (a b : String) (fs : FileSystem) : Prop :=
  ∃ id, fs.resolve .find (path a) = .ok (.file id) ∧ fs.resolve .find (stagingPath b) = .ok (.file id)

/-- A marker that can be read is a file or a device. -/
theorem exists_target_of_reading (h : reading a fs = .ok (some stored)) :
    (∃ id, fs.resolve .find (path a) = .ok (.file id) ∧ decoded fs (.file id) = .ok stored) ∨
    ∃ which, fs.resolve .find (path a) = .ok (.device which) ∧ decoded fs (.device which) = .ok stored := by
  obtain ⟨marker, hopen, hdecoded⟩ := reading_eq_some_iff.1 h
  have hresolve := openToRead_eq_ok_iff.1 hopen
  cases marker with
  | directory p => cases hdecoded
  | file id => exact .inl ⟨id, hresolve, hdecoded⟩
  | device which => exact .inr ⟨which, hresolve, hdecoded⟩

theorem reading_of_resolve_device {which : Device}
    (hresolve : fs.resolve .find (path a) = .ok (.device which)) :
    reading a fs = (decoded fs (.device which)).map some := by
  unfold reading openToRead
  rw [hresolve]
  rfl

/-! ## One publication -/

/-- The staging name leads to the file that is written, or to nothing yet. -/
theorem Publication.walk_staging_before (h : Publication b c fs s) :
    ∃ u, fs.walk .find s.spare s.home [.name stagingName] = .ok u ∧
      (u = .file s.id ∨ ∃ q, u = .vacant q) := by
  rw [← h.site.resolve_stagingPath]
  rcases openToWrite_cases h.opens with ⟨which, -, hdevice, -⟩ | ⟨id, hfind, hid, -⟩ | ⟨q, hfind, -, -⟩
  · cases hdevice
  · cases hid
    exact ⟨_, hfind, .inl rfl⟩
  · exact ⟨_, hfind, .inr ⟨q, rfl⟩⟩

/-- What a text leads to is found after a publication, unless that was the file that is written: the way
to it under the staging name is lost. -/
theorem Publication.resolve_shown {text : String} (h : Publication b c fs s) (hmissing : fs.Missing (path b))
    (hfind : fs.resolve .find text = .ok t) (ht : ∀ q, t ≠ .vacant q) :
    s.shown.resolve .find text = .ok t ∨
      t = .file s.id ∧ ∃ q, s.shown.resolve .find text = .ok (.vacant q) := by
  obtain ⟨i, -, ⟨-, hshown⟩ | ⟨-, hshown⟩⟩ := h.shown_cases hmissing
  · rw [hshown]
    exact .inl (h.staged.resolve hfind ht)
  · obtain ⟨u, hwalk, hu⟩ := h.walk_staging_before
    have hdirectory : ∀ q, u ≠ .directory q := by
      rintro q rfl
      rcases hu with hu | ⟨_, hu⟩ <;> cases hu
    have hnew := hmissing
    rw [Missing, h.site.resolve_path] at hnew
    rw [hshown]
    rcases h.staged.resolve_moved hfind ht (by decide) isName_stagingName hwalk hdirectory hnew i with
        hsame | ⟨rfl, hlost⟩
    · exact .inl hsame
    · rcases hu with rfl | ⟨q, rfl⟩
      · exact .inr ⟨rfl, _, hlost⟩
      · exact absurd rfl (ht q)

/-- A marker that is read from the file that is written was staged over. -/
theorem Publication.stagedOver (h : Publication b c fs s)
    (hfind : fs.resolve .find (path a) = .ok (.file s.id)) : StagedOver a b fs := by
  refine ⟨s.id, hfind, ?_⟩
  rcases h.staged.known with hknown | hunknown
  · exact hknown
  · obtain ⟨k, hk, w, hleads, hstop⟩ := exists_stop_of_resolve hfind
    cases hstop with
    | file _ hentry _ => exact absurd hentry (hunknown _)

theorem Publication.node_shown (h : Publication b c fs s) (hmissing : fs.Missing (path b)) {id : NodeId}
    (hid : id ≠ s.id) : s.shown.node id = fs.node id := by
  obtain ⟨i, -, ⟨-, hshown⟩ | ⟨-, hshown⟩⟩ := h.shown_cases hmissing
  · rw [hshown]
    exact h.staged.node id hid
  · rw [hshown]
    exact h.staged.node id hid

/-- A publication for `b` leaves what is recorded for `a`, or it has staged over it. -/
theorem Publication.reading_elsewhere (h : Publication b c fs s) (hmissing : fs.Missing (path b))
    (ha : Marker.reading a fs = .ok (some stored)) :
    Marker.reading a s.shown = .ok (some stored) ∨
      StagedOver a b fs ∧
        (Marker.reading a s.shown = .ok (some c) ∨ Marker.reading a s.shown = .ok none) := by
  rcases exists_target_of_reading ha with ⟨id, hfind, hdecoded⟩ | ⟨which, hfind, hdecoded⟩
  · rcases h.resolve_shown hmissing hfind (by simp) with hsame | ⟨hid, q, hlost⟩
    · by_cases hid : id = s.id
      · subst hid
        exact .inr ⟨h.stagedOver hfind, .inl (h.reading_of_resolve hsame)⟩
      · left
        have hbyte : decoded s.shown (.file id) = decoded fs (.file id) := by
          simp only [decoded, firstByte, h.node_shown hmissing hid]
        rw [reading_of_resolve_file hsame, hbyte, hdecoded]
        rfl
    · cases hid
      exact .inr ⟨h.stagedOver hfind, .inr (reading_eq_none_iff_missing.2 (.inl ⟨q, hlost⟩))⟩
  · rcases h.resolve_shown hmissing hfind (by simp) with hsame | ⟨hid, -⟩
    · left
      have hbyte : decoded s.shown (.device which) = decoded fs (.device which) := by
        cases which <;> rfl
      rw [reading_of_resolve_device hsame, hbyte, hdecoded]
      rfl
    · cases hid

/-! ## Every call -/

/-- What is recorded for a directory stays so whatever call is made on whatever directory, unless the call
publishes a marker there and the staging name leads to the file that the first marker is read from. That
one is then written over, or it is no longer found. -/
theorem recorded_stays_unless_staged_over (h : ((recorded a).run fs).result = .ok (some stored))
    (b : String) (call : Call) :
    ((recorded a).run ((call.procedure b).run fs).files).result = .ok (some stored) ∨
    ∃ c, call.requested? = some c ∧ ((recorded b).run fs).result = .ok none ∧ StagedOver a b fs ∧
      (((recorded a).run ((call.procedure b).run fs).files).result = .ok (some c) ∨
        ((recorded a).run ((call.procedure b).run fs).files).result = .ok none) := by
  simp only [recorded_result] at h ⊢
  cases hcall : call.requested? with
  | none =>
    obtain ⟨-, hfiles, -⟩ := Call.run_of_recorded hcall b fs
    rw [hfiles]
    exact .inl h
  | some c =>
    rw [Call.run_of_requested hcall]
    have hsettled := settled b c fs
    generalize (settle b c).run fs = outcome at hsettled ⊢
    cases hsettled with
    | checked | unread | withheld => exact .inl h
    | published found publication =>
      rcases publication.reading_elsewhere (reading_eq_none_iff_missing.1 found) h with hsame | ⟨hover, hread⟩
      · exact .inl hsame
      · exact .inr ⟨c, rfl, found, hover, hread⟩

/-- Two directories: the first one belongs to a stack, and the staging name of the second one is a link. -/
def neighbours (target : String) : FileSystem :=
  (((FileSystem.initial.setEntry ["a", "work"] (.directory 0o777)).setEntry ["b", "work"]
    (.directory 0o777)).addNode ["GOQUE", "a", "work"] (.file 0o644 [0])).addNode ["GOQUE.tmp", "b", "work"]
    (.link target)

/-- The link leads next to the marker, so the marker stays. -/
theorem recorded_stays_neighbours :
    ((recorded "a").run (neighbours "../a/old")).result = .ok (some .stack) ∧
    ((recorded "a").run (((Call.admits .prefixQueue).procedure "b").run (neighbours "../a/old")).files).result =
      .ok (some .stack) := by
  have h : ((recorded "a").run (neighbours "../a/old")).result = .ok (some .stack) := by decide +kernel
  refine ⟨h, ?_⟩
  rcases recorded_stays_unless_staged_over h "b" (.admits .prefixQueue) with
      hsame | ⟨-, -, -, ⟨id, -, hstaging⟩, -⟩
  · exact hsame
  · have hvacant : (neighbours "../a/old").resolve .find (stagingPath "b") =
        .ok (.vacant ["old", "a", "work"]) := by decide +kernel
    rw [hvacant] at hstaging
    cases hstaging

/-- The link leads to the marker: opening the second directory for a prefix queue turns the first one into
a prefix queue's, too. -/
theorem recorded_staged_over_neighbours :
    ((recorded "a").run (neighbours "../a/GOQUE")).result = .ok (some .stack) ∧
    ((admits "b" .prefixQueue).run (neighbours "../a/GOQUE")).result = .ok true ∧
    ((recorded "a").run ((admits "b" .prefixQueue).run (neighbours "../a/GOQUE")).files).result =
      .ok (some .prefixQueue) := by
  decide +kernel

end CollectionMarker.Marker
