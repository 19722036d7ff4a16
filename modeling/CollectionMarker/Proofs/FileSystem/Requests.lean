import CollectionMarker.Proofs.FileSystem.Home

/-! What the requests of a publication do. A file that is opened, written and synced changes no walk;
renaming moves one entry within its directory. -/

namespace CollectionMarker.FileSystem

open CollectionMarker.Path

variable {fs fs' : FileSystem} {dir name text : String} {p q : Location} {id : NodeId}
  {mode spare : ℕ} {content : List UInt8}

/-! ## Nodes that walks do not go on from -/

theorem sameRoutes_setNode (hnode : fs.node id = .file mode content) (mode' : ℕ)
    (content' : List UInt8) : SameRoutes fs (fs.setNode id (.file mode' content')) := by
  refine ⟨?_, rfl⟩
  intro q
  simp only [turn?, entryAt?_setNode, node_setNode]
  cases fs.entryAt? q with
  | none => rfl
  | some entry =>
    cases entry with
    | directory => rfl
    | node j =>
      by_cases hj : j = id
      · simp [hj, hnode]
      · simp [hj]

/-- The name of a new node is greater than those in use. -/
theorem lt_freshId (h : fs.entryAt? p = some (.node id)) : id < fs.freshId := by
  have hmem := Table.mem_rows_of_get? h
  unfold freshId
  generalize fs.entries.rows = rows at hmem ⊢
  induction rows with
  | nil => cases hmem
  | cons row rest ih =>
    obtain ⟨q, entry⟩ := row
    rw [List.foldr_cons]
    rcases List.mem_cons.1 hmem with heq | hrest
    · obtain ⟨rfl, rfl⟩ := Prod.mk.inj heq
      exact Nat.lt_of_lt_of_le (Nat.lt_succ_self id) (Nat.le_max_left _ _)
    · cases entry with
      | directory => exact ih hrest
      | node => exact Nat.lt_of_lt_of_le (ih hrest) (Nat.le_max_right _ _)

@[simp] theorem entryAt?_addNode (fs : FileSystem) (p : Location) (n : Node) (q : Location) :
    (fs.addNode p n).entryAt? q = if q = p then some (.node fs.freshId) else fs.entryAt? q := by
  simp [addNode]

@[simp] theorem node_addNode (fs : FileSystem) (p : Location) (n : Node) (j : NodeId) :
    (fs.addNode p n).node j = if j = fs.freshId then n else fs.node j := by
  simp [addNode]

theorem sameRoutes_addNode (hentry : fs.entryAt? p = none) (mode : ℕ) (content : List UInt8) :
    SameRoutes fs (fs.addNode p (.file mode content)) := by
  refine ⟨?_, rfl⟩
  intro q
  simp only [turn?, entryAt?_addNode, node_addNode]
  by_cases hq : q = p
  · simp [hq, hentry]
  · rw [if_neg hq]
    cases hother : fs.entryAt? q with
    | none => rfl
    | some entry =>
      cases entry with
      | directory => rfl
      | node j => simp [Nat.ne_of_lt (lt_freshId hother)]

/-! ## Opening to write -/

/-- A file has been opened to be written: the text leads to it, and it is empty. -/
structure Opened (fs : FileSystem) (text : String) (id : NodeId) (after : FileSystem) : Prop where
  routes : SameRoutes fs after
  resolves : after.resolve .find text = .ok (.file id)
  empty : ∃ mode, after.node id = .file mode []

/-- A text goes on leading to a file whose content changes. -/
theorem resolve_setNode (h : fs.resolve .find text = .ok (.file id)) (mode : ℕ) (content : List UInt8) :
    SameRoutes fs (fs.setNode id (.file mode content)) ∧
    (fs.setNode id (.file mode content)).resolve .find text = .ok (.file id) := by
  obtain ⟨k, hk, b, hleads, hstop⟩ := exists_stop_of_resolve h
  cases hstop with
  | file hshort hentry hnode =>
    have hroutes := sameRoutes_setNode hnode mode content
    have hafter : (fs.setNode id (.file mode content)).node id = .file mode content := by simp
    exact ⟨hroutes, hroutes.resolve_eq_of_stop (accepted_of_resolve h) hk hleads
      (.file hshort hentry hafter)⟩

/-- What stands under the text is opened: a device as it is, a file emptied, or a new file. -/
theorem openToWrite_cases {handle : Handle} {after : FileSystem}
    (h : fs.openToWrite text mode = .ok (handle, after)) :
    (∃ which, fs.resolve .find text = .ok (.device which) ∧ handle = .device which ∧ after = fs) ∨
    (∃ id, fs.resolve .find text = .ok (.file id) ∧ handle = .file id ∧ after = fs.truncate id) ∨
    ∃ p, fs.resolve .find text = .ok (.vacant p) ∧ handle = .file fs.freshId ∧
      after = fs.addNode p (.file mode []) := by
  unfold openToWrite at h
  cases hresolve : fs.resolve .create text with
  | error => simp [hresolve, bind, Except.bind] at h
  | ok t =>
    have hfind := resolve_find_of_create hresolve
    cases t <;> simp [hresolve, bind, Except.bind] at h
    case file id => exact .inr (.inl ⟨id, hfind, h.1.symm, h.2.symm⟩)
    case device which => exact .inl ⟨which, hfind, h.1.symm, h.2.symm⟩
    case vacant p => exact .inr (.inr ⟨p, hfind, h.1.symm, h.2.symm⟩)

theorem openToWrite_ne_directory {after : FileSystem} :
    fs.openToWrite text mode ≠ .ok (.directory p, after) := by
  intro h
  simpa using openToWrite_cases h

/-- A device is opened as it is. -/
theorem eq_of_openToWrite_device {which : Device} {after : FileSystem}
    (h : fs.openToWrite text mode = .ok (.device which, after)) : after = fs := by
  obtain ⟨-, hafter⟩ : fs.resolve .find text = .ok (.device which) ∧ after = fs := by
    simpa using openToWrite_cases h
  exact hafter

theorem openToWrite_error_kind {e : IoError} (hnul : '\x00' ∉ text.toList)
    (h : fs.openToWrite text mode = .error e) : e.kind ∈ lookupErrorKinds := by
  unfold openToWrite at h
  cases hresolve : fs.resolve .create text with
  | error e' =>
    obtain rfl : e' = e := by simpa [hresolve, bind, Except.bind] using h
    exact resolve_error_kind hnul hresolve
  | ok t =>
    cases t <;> simp [hresolve, bind, Except.bind] at h
    case directory q =>
      rw [← h]
      decide

theorem truncate_eq (h : fs.node id = .file mode content) :
    fs.truncate id = fs.setNode id (.file mode []) := by
  rw [truncate, h]

theorem opened_of_openToWrite {after : FileSystem}
    (h : fs.openToWrite text mode = .ok (.file id, after)) : fs.Opened text id after := by
  rcases openToWrite_cases h with ⟨which, -, hdevice, -⟩ | ⟨other, hfind, hid, rfl⟩ | ⟨p, hfind, hid, rfl⟩
  · cases hdevice
  · cases hid
    obtain ⟨k, hk, b, hleads, hstop⟩ := exists_stop_of_resolve hfind
    cases hstop with
    | @file _ _ _ mode' _ _ _ hnode =>
      obtain ⟨hroutes, hafter⟩ := resolve_setNode hfind mode' []
      rw [truncate_eq hnode]
      exact ⟨hroutes, hafter, mode', by simp⟩
  · cases hid
    obtain ⟨k, hk, b, hleads, hstop⟩ := exists_stop_of_resolve hfind
    cases hstop with
    | @vacant q last hshort hentry =>
      have hroutes := sameRoutes_addNode hentry mode []
      have hempty : (fs.addNode (last :: q) (.file mode [])).node fs.freshId = .file mode [] := by
        simp
      refine ⟨hroutes, ?_, mode, hempty⟩
      exact hroutes.resolve_eq_of_stop (accepted_of_resolve hfind) hk hleads
        (.file hshort (by simp) hempty)

theorem sameRoutes_of_openToWrite {handle : Handle} {after : FileSystem}
    (h : fs.openToWrite text mode = .ok (handle, after)) : SameRoutes fs after := by
  cases handle with
  | directory => exact absurd h openToWrite_ne_directory
  | file id => exact (opened_of_openToWrite h).routes
  | device which =>
    rw [eq_of_openToWrite_device h]
    exact .refl fs

theorem sameRoutes_of_write {handle : Handle} {bytes : List UInt8} {after : FileSystem}
    (h : fs.write bytes handle = .ok after) : SameRoutes fs after := by
  unfold write at h
  split at h
  · cases h
  · split at h <;> cases h
    exact .refl fs
  · cases h
    exact .refl fs
  · cases h
    exact .refl fs
  · split at h <;> cases h
    · rename_i hnode
      exact sameRoutes_setNode hnode _ _
    · exact .refl fs

theorem write_file (hnode : fs.node id = .file mode []) (bytes : List UInt8) :
    fs.write bytes (.file id) = .ok (fs.setNode id (.file mode bytes)) := by
  simp [write, hnode]

/-! ## Renaming within a directory -/

variable {old new : String}

/-- Renaming looks only at the places that the two texts name. -/
theorem rename_congr {old' new' : String} (hold : Accepted old) (hnew : Accepted new) (hold' : Accepted old')
    (hnew' : Accepted new') (hsource : fs.slot (parse old') = fs.slot (parse old))
    (htarget : fs.slot (parse new') = fs.slot (parse new)) : fs.rename old' new' = fs.rename old new := by
  simp only [rename, hold.checkNul, hnew.checkNul, hold'.checkNul, hnew'.checkNul, hold.ofText, hnew.ofText,
    hold'.ofText, hnew'.ofText, bind, Except.bind, hsource, htarget]

theorem child_eq (hname : IsName name) : fs.child p name = .ok (fs.entryAt? (name :: p)) := by
  rw [child, if_neg hname.short]

/-- The entry of a node has gone from one name of a directory to another. -/
def moved (fs : FileSystem) (p : Location) (old new : String) (id : NodeId) : FileSystem :=
  (fs.eraseEntry (old :: p)).setEntry (new :: p) (.node id)

/-- A node's entry goes from one name to the other, unless both are the node's already. -/
theorem Home.rename_join (h : fs.Home dir p spare) (hold : IsName old) (hnew : IsName new)
    (hacc : Accepted (join dir old)) (hacc' : Accepted (join dir new))
    (hentry : fs.entryAt? (old :: p) = some (.node id))
    (hfree : ∀ mode, fs.entryAt? (new :: p) ≠ some (.directory mode)) :
    fs.rename (join dir old) (join dir new) =
      .ok (if fs.entryAt? (new :: p) = some (.node id) then fs
        else fs.moved p old new id) := by
  have hinside : ¬(new :: p) <:+ p := fun hsuffix =>
    Nat.not_succ_le_self p.length hsuffix.length_le
  simp only [rename, hacc.checkNul, hacc'.checkNul, hacc.ofText, hacc'.ofText, h.slot_join hold,
    h.slot_join hnew, Slot.name?, child_eq hold, child_eq hnew, hentry, bind, Except.bind,
    Bool.false_or, Bool.false_eq_true, if_false, if_neg hinside]
  cases hother : fs.entryAt? (new :: p) with
  | none => simp [moved]
  | some entry =>
    cases entry with
    | directory mode => exact absurd hother (hfree mode)
    | node other =>
      by_cases heq : other = id
      · simp [heq]
      · simp [heq, moved]

end CollectionMarker.FileSystem
