import CollectionMarker.Proofs.Marker.Publication

/-! Whether an admitted directory stays admitted. A publication writes the file that the staging name leads
to and then moves the name. If that is a link that leads on through the marker's name, it leads round in a
circle afterwards and the byte is lost; otherwise the marker leads to the byte. -/

namespace CollectionMarker.Marker

open FileSystem CollectionMarker.Path Procedure

variable {dir : String} {fs : FileSystem} {c : Collection} {s : Stages}

/-- The staging name of the directory is a link that leads on through the marker's name. -/
def StagedThroughMarker (dir : String) (fs : FileSystem) : Prop :=
  ∃ p spare, fs.Home dir p spare ∧ fs.Meets p stagingName name

theorem Publication.stagedThroughMarker_iff (h : Publication dir c fs s) :
    StagedThroughMarker dir fs ↔ fs.Meets s.home stagingName name := by
  constructor
  · rintro ⟨p, spare, hhome, hmeets⟩
    obtain ⟨rfl, -⟩ := hhome.unique h.site.home
    exact hmeets
  · intro hmeets
    exact ⟨s.home, s.spare, h.site.home, hmeets⟩

/-- A staging name that leads on through the marker's name leads nowhere once it has that name. -/
theorem Publication.walk_marker_of_meets (h : Publication dir c fs s) (hmissing : fs.Missing (path dir))
    (hmeets : fs.Meets s.home stagingName name) :
    s.shown.walk .find s.spare s.home [.name name] = .error (.system .tooManyLinksFollowed) := by
  have hmeets' := hmeets.congr h.staged.routes
  obtain ⟨i, hentry, ⟨hsame, -⟩ | ⟨-, hshown⟩⟩ := h.shown_cases hmissing
  · exact absurd hsame (hmeets'.entryAt?_ne (by decide) isName_name hentry h.walk_staging)
  · rw [hshown]
    exact hmeets'.walk_moved (by decide) isName_name hentry h.walk_staging s.spare

theorem Publication.walk_marker_of_not_meets (h : Publication dir c fs s) (hmissing : fs.Missing (path dir))
    (hapart : ¬fs.Meets s.home stagingName name) :
    s.shown.walk .find s.spare s.home [.name name] = .ok (.file s.id) := by
  obtain ⟨i, hentry, ⟨hsame, hshown⟩ | ⟨-, hshown⟩⟩ := h.shown_cases hmissing
  · rw [hshown]
    exact (walk_eq_of_entry isName_name.short isName_stagingName.short hsame hentry s.spare).trans
      h.walk_staging
  · rw [hshown]
    rcases walk_moved isName_stagingName isName_name hentry h.walk_staging with hfile | hmeets
    · exact hfile
    · exact absurd (hmeets.congr h.staged.routes.symm) hapart

/-- What is read after a publication is decided by the way the staging name took. -/
theorem Publication.reading_cases (h : Publication dir c fs s) (hmissing : fs.Missing (path dir)) :
    (¬StagedThroughMarker dir fs ∧ Marker.reading dir s.shown = .ok (some c)) ∨
    (StagedThroughMarker dir fs ∧
      Marker.reading dir s.shown = .error (.io (.system .tooManyLinksFollowed))) := by
  rw [h.stagedThroughMarker_iff]
  by_cases hmeets : fs.Meets s.home stagingName name
  · exact .inr ⟨hmeets, h.reading_of_loop (h.walk_marker_of_meets hmissing hmeets)⟩
  · exact .inl ⟨hmeets, h.reading_of_file (h.walk_marker_of_not_meets hmissing hmeets)⟩

/-! ## Admitted twice -/

/-- What admitting a collection is to leave behind: a marker that is read, the collection's own if there was
none before, and a directory in which asking again is answered alike and changes nothing. -/
structure Lasting (dir : String) (c : Collection) (before after : FileSystem) : Prop where
  recorded : ∃ stored, ((recorded dir).run after).result = .ok (some stored) ∧
    stored.compatible c = true ∧ (((recorded dir).run before).result = .ok none → stored = c)
  admitted : ((admits dir c).run after).result = .ok true
  keeps : ((admits dir c).run after).Keeps after

theorem lasting_of_reading {after : FileSystem} {stored : Collection}
    (hreading : reading dir after = .ok (some stored)) (hcompatible : stored.compatible c = true)
    (hfresh : reading dir fs = .ok none → stored = c) : Lasting dir c fs after := by
  have hsettle := run_settle_of_some hreading c
  obtain ⟨hkeeps, -⟩ := checks_keep hsettle (by simp)
  refine ⟨⟨stored, ?_, hcompatible, ?_⟩, ?_, hkeeps⟩
  · rw [recorded_result, hreading]
  · rw [recorded_result]
    exact hfresh
  · rw [run_admits, hsettle, ← hcompatible]
    rfl

/-- An admitted directory stays admitted, and its marker can be read, except exactly when the marker was
published just now through a staging name that leads on through the marker's own name. -/
theorem admitted_lasts_iff (h : ((admits dir c).run fs).result = .ok true) :
    Lasting dir c fs ((admits dir c).run fs).files ↔
      ¬(((recorded dir).run fs).result = .ok none ∧ StagedThroughMarker dir fs) := by
  rw [recorded_result]
  rw [run_admits] at h ⊢
  have hsettled := settled dir c fs
  generalize (settle dir c).run fs = outcome at h hsettled ⊢
  cases hsettled with
  | unread | withheld => cases h
  | @checked stored found =>
    have hcompatible : stored.compatible c = true := by simpa [Except.map] using h
    refine ⟨fun _ => by simp [found], fun _ => lasting_of_reading found hcompatible ?_⟩
    intro hnone
    simp [hnone] at found
  | @published s n found publication _ =>
    rcases publication.reading_cases (reading_eq_none_iff_missing.1 found) with
        ⟨hapart, hreading⟩ | ⟨hthrough, hreading⟩
    · exact ⟨fun _ hthrough => hapart hthrough.2,
        fun _ => lasting_of_reading hreading (Collection.compatible_self c) fun _ => rfl⟩
    · constructor
      · rintro ⟨⟨stored, hrecorded, -⟩, -, -⟩
        rw [recorded_result, hreading] at hrecorded
        cases hrecorded
      · intro hlasts
        exact absurd ⟨found, hthrough⟩ hlasts

/-- The working directory with a link under the staging name. -/
def linked (target : String) : FileSystem :=
  .addNode .initial ["GOQUE.tmp", "work"] (.link target)

/-- A link to a name that is not there meets no third one. -/
theorem not_meets_linked : ¬(linked "spare").Meets ["work"] stagingName name := by
  intro hmeets
  have hentry : (linked "spare").entryAt? [stagingName, "work"] = some (.node 3) := by decide +kernel
  obtain ⟨text, k, rest, hnode, -, hleads⟩ := hmeets.exists_link (by decide) hentry
  have hspare : (linked "spare").node 3 = .link "spare" := by decide +kernel
  obtain rfl : text = "spare" := by simpa [hspare, eq_comm] using hnode
  have hparse : Path.parse "spare" = ⟨false, [.name "spare"]⟩ := by decide +kernel
  rw [hparse] at hleads
  have hstuck : (linked "spare").onward? ⟨["work"], [.name "spare"]⟩ = none :=
    onward?_eq_none_iff.2 (.inr ⟨"spare", [], rfl, .inr (by decide +kernel)⟩)
  obtain ⟨-, heq⟩ := hleads.of_stuck hstuck
  simp [name] at heq

/-- The link leads to another name, so the directory stays admitted. -/
theorem admitted_lasts_linked :
    ((admits "." .stack).run (linked "spare")).result = .ok true ∧
    Lasting "." .stack (linked "spare") ((admits "." .stack).run (linked "spare")).files := by
  have h : ((admits "." .stack).run (linked "spare")).result = .ok true := by decide +kernel
  refine ⟨h, (admitted_lasts_iff h).2 ?_⟩
  rintro ⟨-, p, spare, hhome, hmeets⟩
  have hopens : (linked "spare").openToRead "." = .ok (.directory ["work"]) := by decide +kernel
  obtain ⟨-, spare', hhome'⟩ := exists_home_of_openToRead hopens
  obtain ⟨rfl, -⟩ := hhome.unique hhome'
  exact not_meets_linked hmeets

/-- The link leads to the marker's name: the directory is admitted, and then its marker cannot be read. -/
theorem admitted_lost_linked :
    ((admits "." .stack).run (linked "GOQUE")).result = .ok true ∧
    ((recorded ".").run ((admits "." .stack).run (linked "GOQUE")).files).result =
      .error (.io (.system .tooManyLinksFollowed)) ∧
    ((admits "." .stack).run ((admits "." .stack).run (linked "GOQUE")).files).result =
      .error (.io (.system .tooManyLinksFollowed)) := by
  decide +kernel

end CollectionMarker.Marker
