import CollectionMarker.Proofs.Marker.Effect

/-! The first use of a directory. It has no marker: nothing stands under the marker's name, or a link that
leads to nothing. What stands under the staging name is at most a file of its own, as an earlier use may
have left it behind. Then exactly the two names change. -/

namespace CollectionMarker.Marker

open FileSystem CollectionMarker.Path Procedure

variable {dir : String} {p : Location} {spare : ℕ} {fs : FileSystem}

/-- The directory has nothing under the marker's name, or a link that is found to lead to nothing. -/
def Unclaimed (dir : String) (p : Location) (fs : FileSystem) : Prop :=
  fs.look (name :: p) = none ∨
    (∃ target, fs.look (name :: p) = some (.node (.link target))) ∧
      ∃ e, fs.openToRead (path dir) = .error e ∧ e.kind = .notFound

theorem Unclaimed.missing (h : Unclaimed dir p fs) (hsite : Site dir p spare fs) : fs.Missing (path dir) := by
  rcases h with hvacant | ⟨-, hopen⟩
  · exact reading_eq_none_iff_missing.1 (hsite.reading_of_vacant hvacant)
  · exact missing_iff.2 hopen

/-- A first use is admitted. It takes away the staging name and puts the marker in its place, with the one
byte and the mode of the staging file if there was one. Nothing else changes anywhere: what stood under the
marker's name is replaced, not followed. -/
theorem first_use_changes_two_names (h : Address dir p fs) (hmarker : Unclaimed dir p fs)
    (hstaging : fs.Lone (stagingName :: p)) (c : Collection) :
    ((admits dir c).run fs).result = .ok true ∧
    ((admits dir c).run fs).files.look = publishedTree fs.look p c ∧
    (∀ q, q ≠ stagingName :: p → q ≠ name :: p →
      ((admits dir c).run fs).files.entryAt? q = fs.entryAt? q) ∧
    ((admits dir c).run fs).files.workingDirectory = fs.workingDirectory := by
  obtain ⟨spare, hsite⟩ := h.exists_site
  have hmissing := hmarker.missing hsite
  obtain ⟨s, rfl, hs, hfiles, hresult⟩ := hsite.settle_of_missing hmissing hstaging.plain c
  rw [run_admits, hfiles, hresult h.ne_empty]
  refine ⟨by simp [Except.map], hs.look_shown hmissing hstaging, ?_, hs.workingDirectory_shown hmissing⟩
  intro q hold hnew
  exact hs.entryAt?_shown hmissing hstaging hold hnew

/-- The working directory with the rest of an earlier use, and a link to nothing under the marker's name. -/
def dangling : FileSystem :=
  (FileSystem.initial.addNode ["GOQUE.tmp", "work"] (.file 0o600 [9, 9, 9])).addNode ["GOQUE", "work"]
    (.link "spare")

theorem address_dangling : Address "." ["work"] dangling where
  opens := by decide +kernel
  short := by decide +kernel

theorem unclaimed_dangling : Unclaimed "." ["work"] dangling := by
  exact .inr ⟨⟨"spare", by decide +kernel⟩, .system .noEntry, by decide +kernel, rfl⟩

theorem lone_dangling : dangling.Lone ["GOQUE.tmp", "work"] := by
  have hentry : dangling.entryAt? ["GOQUE.tmp", "work"] = some (.node 3) := by decide +kernel
  have hnode : dangling.node 3 = .file 0o600 [9, 9, 9] := by decide +kernel
  exact lone_of_rows hentry hnode (by decide +kernel)

/-- The stale bytes are gone, the mode has stayed, and the link's target has not been made. -/
theorem first_use_changes_two_names_dangling :
    Address "." ["work"] dangling ∧ Unclaimed "." ["work"] dangling ∧
    dangling.Lone ["GOQUE.tmp", "work"] ∧ ((admits "." .priorityQueue).run dangling).result = .ok true ∧
    ((admits "." .priorityQueue).run dangling).files.look ["GOQUE", "work"] =
      some (.node (.file 0o600 [2])) ∧
    ((admits "." .priorityQueue).run dangling).files.look ["GOQUE.tmp", "work"] = none ∧
    ((admits "." .priorityQueue).run dangling).files.look ["spare", "work"] = none := by
  obtain ⟨hresult, hlook, -⟩ :=
    first_use_changes_two_names address_dangling unclaimed_dangling lone_dangling .priorityQueue
  rw [hlook]
  refine ⟨address_dangling, unclaimed_dangling, lone_dangling, hresult, ?_⟩
  decide +kernel

end CollectionMarker.Marker
