import CollectionMarker.Proofs.FileSystem.Bystander
import CollectionMarker.Proofs.Marker.Call

/-! What a marker means. It is missing, it cannot be read, or it begins with a byte, and then that byte alone
decides: not what follows it, not the file's mode, not the links on the way to it, and nothing else in the
file system. -/

namespace CollectionMarker

theorem Collection.ofTag_eq_ok_iff {byte : UInt8} {c : Collection} :
    Collection.ofTag byte = .ok c ↔ c.tag = byte := by
  constructor
  · intro h
    unfold Collection.ofTag at h
    split at h
    · rename_i found hfound
      cases h
      exact tag_of_ofTag? hfound
    · cases h
  · rintro rfl
    simp [Collection.ofTag]

theorem Collection.ofTag_eq_error_iff {byte : UInt8} {f : Failure} :
    Collection.ofTag byte = .error f ↔ f = .unknownTag byte ∧ ∀ c : Collection, c.tag ≠ byte := by
  constructor
  · intro h
    refine ⟨?_, fun c hc => by simp [Collection.ofTag_eq_ok_iff.2 hc] at h⟩
    unfold Collection.ofTag at h
    split at h
    · cases h
    · exact (Except.error.inj h).symm
  · rintro ⟨rfl, hall⟩
    cases h : Collection.ofTag byte with
    | ok c => exact absurd (Collection.ofTag_eq_ok_iff.1 h) (hall c)
    | error f =>
      unfold Collection.ofTag at h
      split at h
      · cases h
      · exact h.symm

namespace Marker

open FileSystem Procedure

variable {dir : String} {fs fs' : FileSystem} {byte : UInt8} {e : IoError}

/-- The marker's name leads to a file with that first byte, or to a device that reads as zeros. -/
inductive Begins (dir : String) (fs : FileSystem) : UInt8 → Prop
  | file {id : NodeId} {mode : ℕ} {byte : UInt8} {rest : List UInt8}
      (opens : fs.openToRead (path dir) = .ok (.file id)) (node : fs.node id = .file mode (byte :: rest)) :
      Begins dir fs byte
  | device {which : Device} (opens : fs.openToRead (path dir) = .ok (.device which)) (zeros : which ≠ .null) :
      Begins dir fs 0

/-- The marker's name leads to something that reads as empty. -/
inductive ReadsEmpty (dir : String) (fs : FileSystem) : Prop
  | file {id : NodeId} {mode : ℕ} (opens : fs.openToRead (path dir) = .ok (.file id))
      (node : fs.node id = .file mode [])
  | device (opens : fs.openToRead (path dir) = .ok (.device .null))

/-- The marker is not missing, but it cannot be opened, or no byte can be read from it. -/
inductive Unreadable (dir : String) (fs : FileSystem) : IoError → Prop
  | unopened {e : IoError} (opens : fs.openToRead (path dir) = .error e) (found : e.kind ≠ .notFound) :
      Unreadable dir fs e
  | directory {p : Location} (opens : fs.openToRead (path dir) = .ok (.directory p)) :
      Unreadable dir fs (.system .isDirectory)
  | empty (empty : ReadsEmpty dir fs) : Unreadable dir fs .endOfFile

theorem node_of_openToRead_file {text : String} {id : NodeId} (h : fs.openToRead text = .ok (.file id)) :
    ∃ mode content, fs.node id = .file mode content :=
  node_of_resolve_file (openToRead_eq_ok_iff.1 h)

theorem marker_cases (dir : String) (fs : FileSystem) :
    (∃ e, fs.openToRead (path dir) = .error e ∧ e.kind = .notFound) ∨
    (∃ byte, Begins dir fs byte) ∨ ∃ e, Unreadable dir fs e := by
  cases hopen : fs.openToRead (path dir) with
  | error e =>
    by_cases hkind : e.kind = .notFound
    · exact .inl ⟨e, rfl, hkind⟩
    · exact .inr (.inr ⟨e, .unopened hopen hkind⟩)
  | ok marker =>
    right
    cases marker with
    | directory p => exact .inr ⟨_, .directory hopen⟩
    | file id =>
      obtain ⟨mode, content, hnode⟩ := node_of_openToRead_file hopen
      cases content with
      | nil => exact .inr ⟨_, .empty (.file hopen hnode)⟩
      | cons byte rest => exact .inl ⟨byte, .file hopen hnode⟩
    | device which =>
      by_cases hnull : which = .null
      · exact .inr ⟨_, .empty (.device (hnull ▸ hopen))⟩
      · exact .inl ⟨0, .device hopen hnull⟩

theorem Begins.reading (h : Begins dir fs byte) :
    reading dir fs = (Collection.ofTag byte).map some := by
  cases h with
  | file opens node => simp [Marker.reading, opens, decoded, firstByte, node]
  | @device which opens zeros =>
    cases which with
    | null => exact absurd rfl zeros
    | full | zero => simp [Marker.reading, opens, decoded, firstByte]

theorem Unreadable.reading (h : Unreadable dir fs e) : reading dir fs = .error (.io e) := by
  cases h with
  | unopened opens found => simp [Marker.reading, opens, found]
  | directory opens => simp [Marker.reading, opens, decoded, firstByte, Except.map]
  | empty empty =>
    cases empty with
    | file opens node => simp [Marker.reading, opens, decoded, firstByte, node, Except.map]
    | device opens => simp [Marker.reading, opens, decoded, firstByte, Except.map]

theorem reading_eq_some_iff_begins {c : Collection} :
    reading dir fs = .ok (some c) ↔ Begins dir fs c.tag := by
  constructor
  · intro h
    rcases marker_cases dir fs with hmissing | ⟨byte, hbegins⟩ | ⟨e, hunreadable⟩
    · simp [reading_eq_none_iff.2 hmissing] at h
    · rw [hbegins.reading] at h
      cases hbyte : Collection.ofTag byte with
      | error f => simp [hbyte, Except.map] at h
      | ok d =>
        obtain rfl : d = c := by simpa [hbyte, Except.map] using h
        rwa [Collection.ofTag_eq_ok_iff.1 hbyte]
    · simp [hunreadable.reading] at h
  · intro h
    rw [h.reading, Collection.ofTag_eq_ok_iff.2 rfl]
    rfl

theorem reading_eq_error_iff_marker {f : Failure} :
    reading dir fs = .error f ↔
      (∃ byte, Begins dir fs byte ∧ f = .unknownTag byte ∧ ∀ c : Collection, c.tag ≠ byte) ∨
      ∃ e, Unreadable dir fs e ∧ f = .io e := by
  constructor
  · intro h
    rcases marker_cases dir fs with hmissing | ⟨byte, hbegins⟩ | ⟨e, hunreadable⟩
    · simp [reading_eq_none_iff.2 hmissing] at h
    · rw [hbegins.reading] at h
      cases hbyte : Collection.ofTag byte with
      | ok c => simp [hbyte, Except.map] at h
      | error f' =>
        obtain rfl : f' = f := by simpa [hbyte, Except.map] using h
        exact .inl ⟨byte, hbegins, Collection.ofTag_eq_error_iff.1 hbyte⟩
    · rw [hunreadable.reading] at h
      exact .inr ⟨e, hunreadable, (Except.error.inj h).symm⟩
  · rintro (⟨byte, hbegins, rfl, hnone⟩ | ⟨e, hunreadable, rfl⟩)
    · rw [hbegins.reading, Collection.ofTag_eq_error_iff.2 ⟨rfl, hnone⟩]
      rfl
    · exact hunreadable.reading

/-- Calls that read the same answer and log the same, unless one of them is left without a marker. -/
theorem Call.run_congr_of_reading (h : reading dir fs = reading dir fs') (hmarker : reading dir fs ≠ .ok none)
    (call : Call) :
    ((call.procedure dir).run fs).result = ((call.procedure dir).run fs').result ∧
    ((call.procedure dir).run fs).events = ((call.procedure dir).run fs').events := by
  cases hcall : call.requested? with
  | none =>
    rw [(Call.run_of_recorded hcall dir fs).1, (Call.run_of_recorded hcall dir fs').1, h,
      Call.events_of_recorded hcall dir fs, Call.events_of_recorded hcall dir fs']
    exact ⟨rfl, rfl⟩
  | some c =>
    rw [Call.run_of_requested hcall dir fs, Call.run_of_requested hcall dir fs']
    rcases hreading : reading dir fs with f | - | stored
    · obtain ⟨n, hrun⟩ := run_settle_of_error hreading c
      obtain ⟨n', hrun'⟩ := run_settle_of_error (h.symm.trans hreading) c
      rw [hrun, hrun']
      exact ⟨rfl, rfl⟩
    · exact absurd hreading hmarker
    · rw [run_settle_of_some hreading, run_settle_of_some (h.symm.trans hreading)]
      exact ⟨rfl, rfl⟩

/-- What is recorded is there exactly when the marker begins with its tag; any other first byte is unknown, and
without one there is no marker or an error of the file system. Two states with the same first byte are told
apart by no call. -/
theorem first_byte_decides (dir : String) (fs : FileSystem) :
    (((recorded dir).run fs).result = .ok none ↔
      ∃ e, fs.openToRead (path dir) = .error e ∧ e.kind = .notFound) ∧
    (∀ c, ((recorded dir).run fs).result = .ok (some c) ↔ Begins dir fs c.tag) ∧
    (∀ byte, ((recorded dir).run fs).result = .error (.unknownTag byte) ↔
      Begins dir fs byte ∧ ∀ c : Collection, c.tag ≠ byte) ∧
    (∀ e, ((recorded dir).run fs).result = .error (.io e) ↔ Unreadable dir fs e) ∧
    (∀ stored c, ((recorded dir).run fs).result ≠ .error (.incompatible stored c)) ∧
    (∀ p, fs.openToRead (path dir) = .ok (.directory p) →
      ∃ e, ((recorded dir).run fs).result = .error (.io e) ∧ e.kind = .isADirectory) ∧
    (ReadsEmpty dir fs → ∃ e, ((recorded dir).run fs).result = .error (.io e) ∧ e.kind = .unexpectedEof) ∧
    (∀ fs' byte, Begins dir fs byte → Begins dir fs' byte → ∀ call : Call,
      ((call.procedure dir).run fs).result = ((call.procedure dir).run fs').result ∧
      ((call.procedure dir).run fs).events = ((call.procedure dir).run fs').events) := by
  rw [recorded_result]
  refine ⟨reading_eq_none_iff, fun c => reading_eq_some_iff_begins, ?_, ?_, ?_, ?_, ?_, ?_⟩
  · intro byte
    simp [reading_eq_error_iff_marker]
  · intro e
    simp [reading_eq_error_iff_marker]
  · intro stored c h
    exact reading_ne_incompatible h stored c rfl
  · intro p hopen
    exact ⟨_, (Unreadable.directory hopen).reading, rfl⟩
  · intro hempty
    exact ⟨_, (Unreadable.empty hempty).reading, rfl⟩
  · intro fs' byte h h' call
    refine Call.run_congr_of_reading (h.reading.trans h'.reading.symm) ?_ call
    rw [h.reading]
    cases Collection.ofTag byte <;> simp [Except.map]

def linkedMarker (bytes : List UInt8) : FileSystem :=
  (FileSystem.initial.addNode ["far", "work"] (.file 0o400 bytes)).addNode ["GOQUE", "work"] (.link "far")

example : ((recorded ".").run (linkedMarker [3, 0, 7])).result = .ok (some .prefixQueue) ∧
    ((recorded ".").run (linkedMarker [9])).result = .error (.unknownTag 9) ∧
    ((recorded ".").run (linkedMarker [])).result = .error (.io .endOfFile) := by
  decide +kernel

end Marker
end CollectionMarker
