import CollectionMarker.Proofs.Marker.Publication

/-! The two paths that a directory's marker has in its life. They name places in one directory, the staging path
is the marker's with something behind it, and no directory's staging path is any directory's marker. Two texts
share their paths only if a slash at the end is all that tells them apart. -/

namespace CollectionMarker.Marker

open FileSystem CollectionMarker.Path

variable {d e : String}

theorem stagingPath_eq (dir : String) : stagingPath dir = path dir ++ ".tmp" := by
  have hname : stagingName = name ++ ".tmp" := rfl
  rw [stagingPath, hname, join_append, path]

/-- The last character tells them apart. -/
theorem path_ne_stagingPath (d e : String) : path d ≠ stagingPath e := by
  intro h
  have hlast := congrArg (fun text => text.toList.getLast?) h
  simp only [path, stagingPath, getLast?_join isName_name.ne_nil, getLast?_join isName_stagingName.ne_nil] at hlast
  revert hlast
  decide

/-- Renaming one to the other stays in the directory, wherever that is. -/
theorem slot_stagingPath_dir (fs : FileSystem) (dir : String) :
    (fs.slot (parse (stagingPath dir))).map Slot.dir = (fs.slot (parse (path dir))).map Slot.dir := by
  unfold stagingPath path
  rw [slot_join isName_stagingName, slot_join isName_name]
  cases fs.directoryAt (parse dir) (steps dir) <;> rfl

/-- A staging path is the marker's path with `.tmp` behind it, in the same directory, and never a marker's path.
Two different texts have the same marker path, and the same staging path, exactly if one is the other with the
slash that it lacked before a name. -/
theorem paths_collide_only_for_closing_slash (d e : String) :
    stagingPath d = path d ++ ".tmp" ∧
    (∀ fs : FileSystem, (fs.slot (parse (stagingPath d))).map Slot.dir = (fs.slot (parse (path d))).map Slot.dir) ∧
    path d ≠ stagingPath e ∧
    (path d = path e ↔ d = e ∨ (NeedsSlash d ∧ e = d ++ "/") ∨ (NeedsSlash e ∧ d = e ++ "/")) ∧
    (stagingPath d = stagingPath e ↔ d = e ∨ (NeedsSlash d ∧ e = d ++ "/") ∨ (NeedsSlash e ∧ d = e ++ "/")) :=
  ⟨stagingPath_eq d, fun fs => slot_stagingPath_dir fs d, path_ne_stagingPath d e, join_eq_join_iff, join_eq_join_iff⟩

example : path "d" = path "d/" ∧ path "d/" ≠ path "d//" ∧ path "" ≠ path "/" ∧
    path "GOQUE.tmp" = "GOQUE.tmp/GOQUE" := by
  decide +kernel

end CollectionMarker.Marker
