import CollectionMarker.Proofs.FileSystem.Bystander
import CollectionMarker.Proofs.Marker.Reading

/-! Publishing a marker. Everything that can fail fails before anything is changed: once the staging
file is open and no device, its directory is known, so renaming succeeds and the directory can still be
opened to be synced. -/

namespace CollectionMarker.Marker

open FileSystem CollectionMarker.Path Procedure

theorem isName_name : IsName name := ⟨by decide, by decide, by decide, by decide⟩

theorem isName_stagingName : IsName stagingName := ⟨by decide, by decide, by decide, by decide⟩

variable {dir : String} {p : Location} {spare fresh mode' : ℕ} {fs : FileSystem} {id : NodeId}
  {content : List UInt8} {c : Collection}

theorem reading_eq_none_iff_missing : reading dir fs = .ok none ↔ fs.Missing (path dir) :=
  reading_eq_none_iff.trans missing_iff.symm

theorem reading_of_resolve_file (hresolve : fs.resolve .find (path dir) = .ok (.file id)) :
    reading dir fs = (decoded fs (.file id)).map some := by
  unfold reading openToRead
  rw [hresolve]
  rfl

/-- The directory that a text leads to, with the links that may still be followed from there. The names
in it are not too long. -/
structure Site (dir : String) (p : Location) (spare : ℕ) (fs : FileSystem) : Prop where
  accepted : Accepted (stagingPath dir)
  home : fs.Home dir p spare

theorem Site.accepted_path (h : Site dir p spare fs) : Accepted (path dir) :=
  h.accepted.rename isName_name (by decide)

theorem Site.congr {fs' : FileSystem} (hsame : SameRoutes fs fs') (h : Site dir p spare fs) :
    Site dir p spare fs' :=
  ⟨h.accepted, h.home.congr hsame⟩

theorem Site.resolve_path (h : Site dir p spare fs) :
    fs.resolve .find (path dir) = fs.walk .find spare p [.name name] :=
  h.home.resolve_join isName_name h.accepted_path

theorem Site.resolve_stagingPath (h : Site dir p spare fs) :
    fs.resolve .find (stagingPath dir) = fs.walk .find spare p [.name stagingName] :=
  h.home.resolve_join isName_stagingName h.accepted

theorem Site.openToRead (h : Site dir p spare fs) (hdir : dir ≠ "") :
    fs.openToRead dir = .ok (.directory p) :=
  h.home.openToRead (h.accepted.dir hdir)

/-- A text that leads to the directory `p` and leaves room for the names in it. -/
structure Address (dir : String) (p : Location) (fs : FileSystem) : Prop where
  opens : fs.openToRead dir = .ok (.directory p)
  short : (stagingPath dir).utf8ByteSize < byteLimit

theorem Address.exists_site (h : Address dir p fs) : ∃ spare, Site dir p spare fs := by
  obtain ⟨hacc, spare, hhome⟩ := exists_home_of_openToRead h.opens
  exact ⟨spare, accepted_join hacc isName_stagingName h.short, hhome⟩

theorem Address.ne_empty (h : Address dir p fs) : dir ≠ "" := by
  rintro rfl
  cases h.opens

theorem Site.resolve_create_stagingPath (h : Site dir p spare fs) {r : Except IoError Target}
    (hstop : fs.Stop ⟨p, [.name stagingName]⟩ r) : fs.resolve .create (stagingPath dir) = r :=
  (h.home.resolve_join isName_stagingName h.accepted).trans (hstop.walk_name .create spare)

theorem Site.openToWrite_file (h : Site dir p spare fs)
    (hentry : fs.entryAt? (stagingName :: p) = some (.node id)) (hnode : fs.node id = .file mode' content) :
    fs.openToWrite (stagingPath dir) fresh = .ok (.file id, fs.setNode id (.file mode' [])) := by
  have hresolve := h.resolve_create_stagingPath (.file isName_stagingName.short hentry hnode)
  rw [openToWrite, hresolve, ← truncate_eq hnode]
  rfl

theorem Site.openToWrite_vacant (h : Site dir p spare fs) (hentry : fs.entryAt? (stagingName :: p) = none) :
    fs.openToWrite (stagingPath dir) fresh =
      .ok (.file fs.freshId, fs.addNode (stagingName :: p) (.file fresh [])) := by
  have hresolve := h.resolve_create_stagingPath (.vacant isName_stagingName.short hentry)
  rw [openToWrite, hresolve]
  rfl

/-- A marker that is missing does not lead to a directory. -/
theorem Site.deadEnd (h : Site dir p spare fs) (hmissing : fs.Missing (path dir)) :
    fs.DeadEnd p name := by
  have hresolve := h.resolve_path
  rcases hmissing with ⟨q, hvacant⟩ | hnone
  · exact deadEnd_of_walk (hresolve.symm.trans hvacant) (by simp) (by simp)
  · exact deadEnd_of_walk (hresolve.symm.trans hnone) (by simp) (by simp)

/-! ## The states on the way -/

/-- What a publication comes through: the directory, with the links that may still be followed from
there, the file that is written, and the states with the file opened, written and renamed. -/
structure Stages where
  home : Location
  spare : ℕ
  id : NodeId
  opened : FileSystem
  written : FileSystem
  shown : FileSystem

structure Publication (dir : String) (c : Collection) (fs : FileSystem) (s : Stages) : Prop where
  site : Site dir s.home s.spare fs
  opens : fs.openToWrite (stagingPath dir) mode = .ok (.file s.id, s.opened)
  writes : s.opened.write [c.tag] (.file s.id) = .ok s.written
  renames : s.written.rename (stagingPath dir) (path dir) = .ok s.shown
  siteShown : Site dir s.home s.spare s.shown
  content : ∃ mode, s.shown.node s.id = .file mode [c.tag]
  marker : s.shown.walk .find s.spare s.home [.name name] = .ok (.file s.id) ∨
    s.shown.walk .find s.spare s.home [.name name] = .error (.system .tooManyLinksFollowed)

/-- Once the staging file is open, nothing fails any more until the marker is shown. -/
theorem exists_publication {opened : FileSystem} (hmissing : fs.Missing (path dir))
    (hopen : fs.openToWrite (stagingPath dir) mode = .ok (.file id, opened)) (c : Collection) :
    ∃ s, s.id = id ∧ s.opened = opened ∧ Publication dir c fs s := by
  have hopened := opened_of_openToWrite hopen
  obtain ⟨p, spare, hhome⟩ := exists_home_of_resolve isName_stagingName hopened.resolves
  have hsiteOpened : Site dir p spare opened := ⟨accepted_of_resolve hopened.resolves, hhome⟩
  have hsite : Site dir p spare fs := hsiteOpened.congr hopened.routes.symm
  obtain ⟨mode', hempty⟩ := hopened.empty
  -- the written state
  have hwrite := write_file hempty [c.tag]
  obtain ⟨hroutes, hresolve⟩ := resolve_setNode hopened.resolves mode' [c.tag]
  have hcontent : (opened.setNode id (.file mode' [c.tag])).node id = .file mode' [c.tag] := by simp
  generalize opened.setNode id (.file mode' [c.tag]) = written at hwrite hroutes hresolve hcontent
  have hsiteWritten : Site dir p spare written := hsiteOpened.congr hroutes
  have hstaging : written.walk .find spare p [.name stagingName] = .ok (.file id) :=
    hsiteWritten.resolve_stagingPath.symm.trans hresolve
  have hdead : written.DeadEnd p name := (hsite.deadEnd hmissing).congr (hopened.routes.trans hroutes)
  -- the shown state
  obtain ⟨shown, hrename, hhomeShown, hnode, hmarker⟩ :=
    hsiteWritten.home.exists_renamed isName_stagingName isName_name (by decide) hsite.accepted
      hsite.accepted_path hstaging hdead
  exact ⟨⟨p, spare, id, opened, written, shown⟩, rfl, rfl, hsite, hopen, hwrite, hrename,
    ⟨hsite.accepted, hhomeShown⟩, ⟨mode', (hnode id).trans hcontent⟩, hmarker⟩

/-- The staging file is written with the one byte. -/
theorem Publication.written_eq {s : Stages} (h : Publication dir c fs s) :
    ∃ mode, s.opened.node s.id = .file mode [] ∧ s.written = s.opened.setNode s.id (.file mode [c.tag]) := by
  obtain ⟨mode', hempty⟩ := (opened_of_openToWrite h.opens).empty
  have hwrite := h.writes.symm.trans (write_file hempty [c.tag])
  exact ⟨mode', hempty, Except.ok.inj hwrite⟩

theorem Publication.staged {s : Stages} (h : Publication dir c fs s) :
    fs.Staged (stagingPath dir) s.id s.written := by
  obtain ⟨mode', -, hwritten⟩ := h.written_eq
  rw [hwritten]
  exact (staged_of_openToWrite h.opens).setNode mode' [c.tag]

theorem Publication.siteWritten {s : Stages} (h : Publication dir c fs s) :
    Site dir s.home s.spare s.written :=
  h.site.congr h.staged.routes

theorem Publication.walk_staging {s : Stages} (h : Publication dir c fs s) :
    s.written.walk .find s.spare s.home [.name stagingName] = .ok (.file s.id) := by
  obtain ⟨mode', -, hwritten⟩ := h.written_eq
  obtain ⟨-, hresolve⟩ := resolve_setNode (opened_of_openToWrite h.opens).resolves mode' [c.tag]
  rw [← hwritten, h.siteWritten.resolve_stagingPath] at hresolve
  exact hresolve

theorem Publication.deadEnd {s : Stages} (h : Publication dir c fs s) (hmissing : fs.Missing (path dir)) :
    s.written.DeadEnd s.home name :=
  (h.site.deadEnd hmissing).congr h.staged.routes

/-- The entry under the staging name goes to the marker's name, unless that one names the same node. -/
theorem Publication.shown_cases {s : Stages} (h : Publication dir c fs s) (hmissing : fs.Missing (path dir)) :
    ∃ i, s.written.entryAt? (stagingName :: s.home) = some (.node i) ∧
      ((s.written.entryAt? (name :: s.home) = some (.node i) ∧ s.shown = s.written) ∨
      (s.written.entryAt? (name :: s.home) ≠ some (.node i) ∧
        s.shown = s.written.moved s.home stagingName name i)) := by
  obtain ⟨i, hentry, hcases⟩ := h.siteWritten.home.renamed_cases isName_stagingName isName_name
    h.site.accepted h.site.accepted_path h.walk_staging (h.deadEnd hmissing)
  refine ⟨i, hentry, hcases.imp ?_ ?_⟩
  · rintro ⟨hsame, hrename⟩
    exact ⟨hsame, Except.ok.inj (h.renames.symm.trans hrename)⟩
  · rintro ⟨hother, hrename⟩
    exact ⟨hother, Except.ok.inj (h.renames.symm.trans hrename)⟩

theorem Publication.workingDirectory_shown {s : Stages} (h : Publication dir c fs s)
    (hmissing : fs.Missing (path dir)) : s.shown.workingDirectory = fs.workingDirectory := by
  have hwritten := h.staged.routes.workingDirectory
  obtain ⟨i, -, ⟨-, hshown⟩ | ⟨-, hshown⟩⟩ := h.shown_cases hmissing
  · rw [hshown]
    exact hwritten
  · rw [hshown]
    exact hwritten

theorem Publication.reading_of_resolve {other : String} {s : Stages} (h : Publication dir c fs s)
    (hresolve : s.shown.resolve .find (path other) = .ok (.file s.id)) :
    reading other s.shown = .ok (some c) := by
  obtain ⟨mode, hcontent⟩ := h.content
  rw [reading_of_resolve_file hresolve]
  simp [decoded, firstByte, hcontent, Collection.ofTag, Except.map]

theorem Publication.reading_of_file {s : Stages} (h : Publication dir c fs s)
    (hmarker : s.shown.walk .find s.spare s.home [.name name] = .ok (.file s.id)) :
    reading dir s.shown = .ok (some c) :=
  h.reading_of_resolve (h.siteShown.resolve_path.trans hmarker)

theorem Publication.reading_of_loop {s : Stages} (h : Publication dir c fs s)
    (hmarker : s.shown.walk .find s.spare s.home [.name name] = .error (.system .tooManyLinksFollowed)) :
    reading dir s.shown = .error (.io (.system .tooManyLinksFollowed)) := by
  have hresolve := h.siteShown.resolve_path
  apply reading_eq_error_iff.2
  refine .inr ⟨_, ?_, by decide, rfl⟩
  rw [openToRead, hresolve, hmarker]
  rfl

/-- What is read once the marker is shown: the collection, or an error where the staging name was a link
that leads back to the marker. -/
theorem Publication.reading {s : Stages} (h : Publication dir c fs s) :
    reading dir s.shown = .ok (some c) ∨
      reading dir s.shown = .error (.io (.system .tooManyLinksFollowed)) :=
  h.marker.imp h.reading_of_file h.reading_of_loop

/-! ## Runs of the publication -/

theorem run_syncDirectory_of_error {e : IoError} (h : fs.openToRead dir = .error e) :
    (syncDirectory dir).run fs = ⟨.error e, fs, [fs], []⟩ := by
  unfold syncDirectory
  exact run_bind_error ((run_inspect _ fs).trans (by rw [h])) _

def syncEvents (dir : String) (handle : Handle) : List Event :=
  match sync handle with
  | .ok () => []
  | .error e => [.syncUnsupported dir e]

/-- Nothing that can be opened fails to be synced in a way that matters. -/
theorem run_syncDirectory_of_ok {handle : Handle} (h : fs.openToRead dir = .ok handle) :
    (syncDirectory dir).run fs = ⟨.ok (), fs, [fs, fs], syncEvents dir handle⟩ := by
  unfold syncDirectory
  rw [run_bind_ok ((run_inspect _ fs).trans (by rw [h]))]
  rw [run_bind_ok (run_attempt (run_inspect _ fs))]
  cases handle <;> rfl

theorem run_syncDirectory (h : fs.openToRead dir = .ok (.directory p)) :
    (syncDirectory dir).run fs = ⟨.ok (), fs, [fs, fs], []⟩ :=
  run_syncDirectory_of_ok h

theorem run_syncDirectory_empty (fs : FileSystem) :
    (syncDirectory "").run fs = ⟨.error (.system .noEntry), fs, [fs], []⟩ :=
  run_syncDirectory_of_error rfl

/-- A publication up to the point where the marker is shown; what is left is to make that durable. -/
def install (dir : String) (c : Collection) : Procedure IoError Unit := do
  let staging ← .request (·.openToWrite (stagingPath dir) mode)
  .change (·.write [c.tag] staging)
  .inspect fun _ => FileSystem.sync staging
  .change (·.rename (stagingPath dir) (path dir))

theorem publish_eq (dir : String) (c : Collection) :
    publish dir c = install dir c >>= fun _ => syncDirectory dir := by
  simp only [publish, install, bind_assoc]

/-- What writing and syncing a byte is refused with: a full device does not take it, and on the others there
is nothing to sync. -/
def deviceRefusal : Device → Errno
  | .full => .noSpace
  | .null | .zero => .invalidArgument

theorem install_of_device {which : Device}
    (hopen : fs.openToWrite (stagingPath dir) mode = .ok (.device which, fs)) (c : Collection) :
    ∃ n, (install dir c).run fs =
      ⟨.error (.system (deviceRefusal which)), fs, List.replicate n fs, []⟩ := by
  unfold install
  rw [run_bind_ok (run_request_ok hopen)]
  by_cases hfull : which = .full
  · subst hfull
    have hwrite : fs.write [c.tag] (.device .full) = .error (.system .noSpace) := rfl
    rw [run_bind_error (run_change_error hwrite)]
    exact ⟨2, rfl⟩
  · have hwrite : fs.write [c.tag] (.device which) = .ok fs := by
      cases which <;> simp [FileSystem.write] at hfull ⊢
    have hsync : (inspect fun _ => sync (.device which)).run fs =
        ⟨.error (.system .invalidArgument), fs, [fs], []⟩ := run_inspect _ fs
    have hrefusal : deviceRefusal which = .invalidArgument := by
      cases which <;> simp [deviceRefusal] at hfull ⊢
    rw [run_bind_ok (run_change_ok hwrite), run_bind_error hsync, hrefusal]
    exact ⟨3, rfl⟩

theorem Publication.run_install {s : Stages} (h : Publication dir c fs s) : (install dir c).run fs =
    ⟨.ok (), s.shown, [s.opened, s.written, s.written, s.shown], []⟩ := by
  have hsync : (inspect fun _ => sync (.file s.id)).run s.written = ⟨.ok (), s.written, [s.written], []⟩ :=
    run_inspect _ s.written
  unfold install
  rw [run_bind_ok (run_request_ok h.opens), run_bind_ok (run_change_ok h.writes), run_bind_ok hsync,
    run_change_ok h.renames]
  rfl

def verdict : Except IoError (Handle × FileSystem) → Except IoError Unit
  | .error e => .error e
  | .ok (.file _, _) => .ok ()
  | .ok (.device which, _) => .error (.system (deviceRefusal which))
  | .ok (.directory _, _) => .error (.system .isDirectory)

/-- An installation fails and has changed nothing, or it comes through its stages. The opening decides which. -/
theorem install_cases (hmissing : fs.Missing (path dir)) (c : Collection) :
    (∃ e n, verdict (fs.openToWrite (stagingPath dir) mode) = .error e ∧
      (install dir c).run fs = ⟨.error e, fs, List.replicate n fs, []⟩) ∨
    ∃ s, verdict (fs.openToWrite (stagingPath dir) mode) = .ok () ∧ Publication dir c fs s ∧
      (install dir c).run fs = ⟨.ok (), s.shown, [s.opened, s.written, s.written, s.shown], []⟩ := by
  cases hopen : fs.openToWrite (stagingPath dir) mode with
  | error e =>
    unfold install
    rw [run_bind_error (run_request_error hopen)]
    exact .inl ⟨e, 1, rfl, rfl⟩
  | ok opening =>
    obtain ⟨handle, opened⟩ := opening
    cases handle with
    | directory => exact absurd hopen openToWrite_ne_directory
    | device which =>
      obtain rfl := eq_of_openToWrite_device hopen
      obtain ⟨n, hrun⟩ := install_of_device hopen c
      exact .inl ⟨_, n, rfl, hrun⟩
    | file id =>
      obtain ⟨s, -, -, hs⟩ := exists_publication hmissing hopen c
      exact .inr ⟨s, rfl, hs, hs.run_install⟩

theorem install_result (hmissing : fs.Missing (path dir)) (c : Collection) :
    ((install dir c).run fs).result = verdict (fs.openToWrite (stagingPath dir) mode) := by
  rcases install_cases hmissing c with ⟨e, n, hverdict, hrun⟩ | ⟨s, hverdict, -, hrun⟩
  · rw [hrun, hverdict]
  · rw [hrun, hverdict]

/-- A publication that shows its marker fails only for the empty text, under which no directory can be
opened to be synced. -/
theorem publish_cases (hmissing : fs.Missing (path dir)) (c : Collection) :
    (∃ e n, ((install dir c).run fs).result = .error e ∧
      (publish dir c).run fs = ⟨.error e, fs, List.replicate n fs, []⟩) ∨
    ∃ s, Publication dir c fs s ∧ ((install dir c).run fs).result = .ok () ∧
      ∃ n, (publish dir c).run fs =
      ⟨if dir = "" then .error (.system .noEntry) else .ok (), s.shown,
        s.opened :: s.written :: s.written :: List.replicate (n + 1) s.shown, []⟩ := by
  rw [publish_eq]
  rcases install_cases hmissing c with ⟨e, n, -, hrun⟩ | ⟨s, -, hs, hrun⟩
  · exact .inl ⟨e, n, by rw [hrun], run_bind_error hrun _⟩
  · refine .inr ⟨s, hs, by rw [hrun], ?_⟩
    rw [run_bind_ok hrun]
    by_cases hdir : dir = ""
    · refine ⟨1, ?_⟩
      rw [if_pos hdir, hdir, run_syncDirectory_empty]
      rfl
    · refine ⟨2, ?_⟩
      rw [if_neg hdir, run_syncDirectory (hs.siteShown.openToRead hdir)]
      rfl

/-! ## Settling -/

/-- What settling comes to: the marker is read, or reading it fails, or there is none and publishing one
fails with nothing changed, or one is published. -/
inductive Settled (dir : String) (c : Collection) (fs : FileSystem) : Outcome Failure Collection → Prop
  | checked {stored : Collection} (found : reading dir fs = .ok (some stored)) :
    Settled dir c fs ⟨.ok stored, fs, [fs, fs], [.checked dir stored c]⟩
  | unread {f : Failure} {n : ℕ} (found : reading dir fs = .error f) :
    Settled dir c fs ⟨.error f, fs, List.replicate n fs, []⟩
  | withheld {e : IoError} {n : ℕ} (found : reading dir fs = .ok none)
    (failed : ((install dir c).run fs).result = .error e) :
    Settled dir c fs ⟨.error (.io e), fs, List.replicate n fs, []⟩
  | published {s : Stages} {n : ℕ} (found : reading dir fs = .ok none) (publication : Publication dir c fs s)
    (installed : ((install dir c).run fs).result = .ok ()) :
    Settled dir c fs ⟨if dir = "" then .error (.io (.system .noEntry)) else .ok c, s.shown,
      fs :: s.opened :: s.written :: s.written :: List.replicate (n + 1) s.shown,
      if dir = "" then [] else [.tagged dir c]⟩

theorem settled (dir : String) (c : Collection) (fs : FileSystem) :
    Settled dir c fs ((settle dir c).run fs) := by
  rcases hreading : reading dir fs with f | - | stored
  · obtain ⟨n, hrun⟩ := run_settle_of_error hreading c
    rw [hrun]
    exact .unread hreading
  · have hrun := run_settle_of_none hreading c
    rcases publish_cases (reading_eq_none_iff_missing.1 hreading) c with
        ⟨e, n, hfailed, hpublish⟩ | ⟨s, hs, hok, n, hpublish⟩
    · rw [hpublish] at hrun
      rw [hrun]
      exact .withheld (n := n + 1) hreading hfailed
    · rw [hpublish] at hrun
      have hpublished := Settled.published (n := n) hreading hs hok
      by_cases hdir : dir = ""
      · simp only [if_pos hdir] at hrun hpublished
        rw [hrun]
        exact hpublished
      · simp only [if_neg hdir] at hrun hpublished
        rw [hrun]
        exact hpublished
  · rw [run_settle_of_some hreading c]
    exact .checked hreading

end CollectionMarker.Marker
