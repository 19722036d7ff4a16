import CollectionMarker.Proofs.Marker.Publication

/-! The two phases of a directory whose staging name stands for no link: unmarked until a publication
renames, marked from then on. -/

namespace CollectionMarker

namespace FileSystem

def Plain (fs : FileSystem) (p : Location) : Prop :=
  fs.look p = none ∨ ∃ mode content, fs.look p = some (.node (.file mode content))

variable {fs : FileSystem} {p : Location} {id : NodeId} {mode : ℕ} {content : List UInt8}

theorem Plain.entryAt? (h : fs.Plain p) : fs.entryAt? p = none ∨
    ∃ id mode content, fs.entryAt? p = some (.node id) ∧ fs.node id = .file mode content := by
  rcases h with h | ⟨mode, content, h⟩
  · exact .inl (look_eq_none_iff.1 h)
  · obtain ⟨id, hentry, hnode⟩ := look_eq_node_iff.1 h
    exact .inr ⟨id, mode, content, hentry, hnode⟩

theorem plain_of_file (hentry : fs.entryAt? p = some (.node id)) (hnode : fs.node id = .file mode content) :
    fs.Plain p :=
  .inr ⟨mode, content, look_eq_node_iff.2 ⟨id, hentry, hnode⟩⟩

theorem Plain.setNode (h : fs.Plain p) (id : NodeId) (mode : ℕ) (content : List UInt8) :
    (fs.setNode id (.file mode content)).Plain p := by
  rcases h.entryAt? with hentry | ⟨j, m, old, hentry, hnode⟩
  · exact .inl (look_eq_none_iff.2 hentry)
  · have hentry' : (fs.setNode id (.file mode content)).entryAt? p = some (.node j) := hentry
    by_cases hj : j = id
    · exact plain_of_file hentry' (by rw [node_setNode, if_pos hj])
    · exact plain_of_file hentry' (by rw [node_setNode, if_neg hj, hnode])

end FileSystem

namespace Marker

open FileSystem CollectionMarker.Path Procedure

variable {dir : String} {p : Location} {spare mode : ℕ} {fs : FileSystem} {id : NodeId}
  {content : List UInt8} {c : Collection} {s : Stages}

theorem names_ne (p : Location) : name :: p ≠ stagingName :: p := by
  simp [name, stagingName]

theorem Site.reading_of_vacant (h : Site dir p spare fs) (hlook : fs.look (name :: p) = none) :
    reading dir fs = .ok none := by
  have hstop : fs.Stop ⟨p, [.name name]⟩ (.ok (.vacant (name :: p))) :=
    .vacant isName_name.short (look_eq_none_iff.1 hlook)
  exact reading_eq_none_iff_missing.2 (.inl ⟨name :: p, h.resolve_path.trans (hstop.walk_eq spare)⟩)

/-- What the content of a regular file tells: only the first byte is looked at, and there has to be
one. -/
def told : List UInt8 → Except Failure Collection
  | [] => .error (.io .endOfFile)
  | byte :: _ => Collection.ofTag byte

theorem Site.reading_of_file (h : Site dir p spare fs)
    (hlook : fs.look (name :: p) = some (.node (.file mode content))) :
    reading dir fs = (told content).map some := by
  obtain ⟨id, hentry, hnode⟩ := look_eq_node_iff.1 hlook
  have hstop : fs.Stop ⟨p, [.name name]⟩ (.ok (.file id)) := .file isName_name.short hentry hnode
  rw [reading_of_resolve_file (h.resolve_path.trans (hstop.walk_eq spare))]
  cases content <;> simp [decoded, firstByte, hnode, told]

/-- A staging name that stands for no link can be opened. -/
theorem Site.exists_opening (h : Site dir p spare fs) (hplain : fs.Plain (stagingName :: p)) :
    ∃ id opened, fs.openToWrite (stagingPath dir) mode = .ok (.file id, opened) := by
  rcases hplain.entryAt? with hvacant | ⟨id, mode', content, hentry, hnode⟩
  · exact ⟨_, _, h.openToWrite_vacant hvacant⟩
  · exact ⟨_, _, h.openToWrite_file hentry hnode⟩

/-! ## Settling -/

theorem Site.settle_of_file (h : Site dir p spare fs)
    (hlook : fs.look (name :: p) = some (.node (.file mode content))) (c : Collection) :
    ((settle dir c).run fs).result = told content ∧ ((settle dir c).run fs).files = fs := by
  have hreading := h.reading_of_file hlook
  cases htold : told content with
  | error f =>
    rw [htold] at hreading
    obtain ⟨n, hrun⟩ := run_settle_of_error hreading c
    rw [hrun]
    exact ⟨rfl, rfl⟩
  | ok stored =>
    rw [htold] at hreading
    rw [run_settle_of_some hreading c]
    exact ⟨rfl, rfl⟩

/-- Where there is no marker and the staging file can be opened, one is published. -/
theorem Site.settle_of_missing (h : Site dir p spare fs) (hmissing : fs.Missing (path dir))
    (hplain : fs.Plain (stagingName :: p)) (c : Collection) :
    ∃ s, s.home = p ∧ Publication dir c fs s ∧ ((settle dir c).run fs).files = s.shown ∧
      (dir ≠ "" → ((settle dir c).run fs).result = .ok c) := by
  have hreading := reading_eq_none_iff_missing.2 hmissing
  have hsettled := settled dir c fs
  generalize (settle dir c).run fs = outcome at hsettled ⊢
  cases hsettled with
  | checked found | unread found => simp [hreading] at found
  | withheld _ failed =>
    obtain ⟨id, opened, hopen⟩ := h.exists_opening hplain
    obtain ⟨s, -, -, hs⟩ := exists_publication hmissing hopen c
    rw [hs.run_install] at failed
    cases failed
  | @published s _ _ publication _ =>
    obtain ⟨hhome, -⟩ := publication.site.home.unique h.home
    exact ⟨s, hhome, publication, rfl, fun hdir => if_neg hdir⟩

/-! ## The two phases -/

structure Unmarked (dir : String) (p : Location) (spare : ℕ) (fs : FileSystem) : Prop
    extends Site dir p spare fs where
  marker : fs.look (name :: p) = none
  staging : fs.Plain (stagingName :: p)

structure Marked (dir : String) (p : Location) (spare : ℕ) (c : Collection) (fs : FileSystem) : Prop
    extends Site dir p spare fs where
  marker : ∃ mode, fs.look (name :: p) = some (.node (.file mode [c.tag]))
  staging : fs.Plain (stagingName :: p)

theorem Unmarked.reading (h : Unmarked dir p spare fs) : reading dir fs = .ok none :=
  h.reading_of_vacant h.marker

theorem Marked.reading (h : Marked dir p spare c fs) : reading dir fs = .ok (some c) := by
  obtain ⟨mode, hlook⟩ := h.marker
  rw [h.reading_of_file hlook]
  simp [told, Collection.ofTag, Except.map]

theorem Unmarked.setNode (h : Unmarked dir p spare fs) (hnode : fs.node id = .file mode content)
    (mode' : ℕ) (content' : List UInt8) :
    Unmarked dir p spare (fs.setNode id (.file mode' content')) where
  toSite := h.toSite.congr (sameRoutes_setNode hnode mode' content')
  marker := by
    rw [look_eq_none_iff, entryAt?_setNode]
    exact look_eq_none_iff.1 h.marker
  staging := h.staging.setNode id mode' content'

theorem Unmarked.addNode (h : Unmarked dir p spare fs)
    (hentry : fs.entryAt? (stagingName :: p) = none) (mode : ℕ) :
    Unmarked dir p spare (fs.addNode (stagingName :: p) (.file mode [])) where
  toSite := h.toSite.congr (sameRoutes_addNode hentry mode [])
  marker := by
    rw [look_eq_none_iff, entryAt?_addNode, if_neg (names_ne p)]
    exact look_eq_none_iff.1 h.marker
  staging := by
    have hentry' : (fs.addNode (stagingName :: p) (.file mode [])).entryAt? (stagingName :: p) =
        some (.node fs.freshId) := by simp
    exact plain_of_file hentry' (by rw [node_addNode, if_pos rfl])

/-- The staging name is opened empty, and nothing is marked by that. -/
theorem Unmarked.opened (h : Unmarked dir p spare fs) {after : FileSystem}
    (hopen : fs.openToWrite (stagingPath dir) mode = .ok (.file id, after)) :
    Unmarked dir p spare after ∧ after.entryAt? (stagingName :: p) = some (.node id) := by
  rcases h.staging.entryAt? with hvacant | ⟨j, mode', content, hentry, hnode⟩
  · obtain ⟨rfl, rfl⟩ : fs.freshId = id ∧ fs.addNode (stagingName :: p) (.file mode []) = after := by
      simpa [h.openToWrite_vacant hvacant] using hopen
    exact ⟨h.addNode hvacant mode, by simp⟩
  · obtain ⟨rfl, rfl⟩ : j = id ∧ fs.setNode j (.file mode' []) = after := by
      simpa [h.openToWrite_file hentry hnode] using hopen
    exact ⟨h.setNode hnode mode' [], hentry⟩

/-- A publication leaves the directory unmarked until it renames. -/
theorem Unmarked.publication (h : Unmarked dir p spare fs) (hs : Publication dir c fs s) :
    Unmarked dir p spare s.opened ∧ Unmarked dir p spare s.written ∧ Marked dir p spare c s.shown := by
  obtain ⟨rfl, rfl⟩ := h.home.unique hs.site.home
  obtain ⟨hopened, hentry⟩ := h.opened hs.opens
  obtain ⟨mode', hempty, heq⟩ := hs.written_eq
  have hwritten : Unmarked dir s.home s.spare s.written := by
    rw [heq]
    exact hopened.setNode hempty mode' [c.tag]
  have hentry' : s.written.entryAt? (stagingName :: s.home) = some (.node s.id) := by
    rw [heq]
    exact hentry
  obtain ⟨i, hi, hcases⟩ := hs.shown_cases (reading_eq_none_iff_missing.1 h.reading)
  obtain rfl : s.id = i := by simpa [hentry'] using hi
  rcases hcases with ⟨hboth, -⟩ | ⟨-, hshown⟩
  · simp [look_eq_none_iff.1 hwritten.marker] at hboth
  · obtain ⟨mode, hcontent⟩ := hs.content
    refine ⟨hopened, hwritten, hs.siteShown, ⟨mode, look_eq_node_iff.2 ⟨s.id, ?_, hcontent⟩⟩, .inl ?_⟩
    · simp [hshown, moved]
    · rw [look_eq_none_iff, hshown, moved, entryAt?_setEntry, if_neg (names_ne _).symm]
      simp

/-- On an unmarked directory every request for a collection marks it. -/
theorem Unmarked.marks (h : Unmarked dir p spare fs) (c : Collection) :
    Marked dir p spare c ((settle dir c).run fs).files := by
  have hmissing := reading_eq_none_iff_missing.1 h.reading
  obtain ⟨s, -, hs, hfiles, -⟩ := h.settle_of_missing hmissing h.staging c
  rw [hfiles]
  exact (h.publication hs).2.2

end Marker
end CollectionMarker
