import CollectionMarker.Proofs.FileSystem.Renamed

/-! What becomes of other texts while one file is opened, written and renamed. What they lead to is still
found, and it is the same unless it is that file. Only a text that goes through the old name loses its
way. -/

namespace CollectionMarker.FileSystem

open CollectionMarker.Path

variable {fs after : FileSystem} {text other name old new : String} {p q : Location} {id j target : NodeId}
  {mode k m n : ℕ} {content : List UInt8} {b : Waypoint} {t u : Target} {r : Except IoError Target}
  {rest : List Part}

/-- A walk that gets somewhere through a name that leads to no directory ends where that name does. -/
theorem Stop.eq_of_through (hstop : fs.Stop b (.ok t)) (hpass : fs.Leads ⟨p, .name name :: rest⟩ m b)
    (hwalk : fs.walk .find n p [.name name] = r) (hdirectory : ∀ q, r ≠ .ok (.directory q))
    (hlinks : r ≠ .error (.system .tooManyLinksFollowed)) : rest = [] ∧ r = .ok t := by
  obtain ⟨k, -, d, hleads, hstop'⟩ := exists_stop_of_walk (a := ⟨p, [.name name]⟩) hwalk hlinks
  have hahead : d.ahead ≠ [] := by
    intro hnil
    cases hstop' with
    | directory q => exact hdirectory q rfl
    | long | vacant | missing | file | device | blocked => cases hnil
  have hstuck := onward?_extend_eq_none hstop'.onward?_eq_none hahead rest
  obtain ⟨-, heq⟩ := (hleads.extend rest).end_unique hpass hstuck hstop.onward?_eq_none
  obtain rfl : rest = [] := by
    have hlength := hstop.length_ahead_le
    rw [← heq] at hlength
    simp only [Waypoint.extend, List.length_append] at hlength
    have := List.length_pos_iff.2 hahead
    exact List.length_eq_zero_iff.1 (by omega)
  obtain rfl : d = b := by simpa [Waypoint.extend] using heq
  exact ⟨rfl, hstop'.unique hstop⟩

theorem entryAt?_of_resolve_vacant (h : fs.resolve .find text = .ok (.vacant q)) : fs.entryAt? q = none := by
  obtain ⟨k, hk, b, hleads, hstop⟩ := exists_stop_of_resolve h
  cases hstop with
  | vacant _ hentry => exact hentry

theorem node_of_resolve_file (h : fs.resolve .find text = .ok (.file id)) :
    ∃ mode content, fs.node id = .file mode content := by
  obtain ⟨k, hk, b, hleads, hstop⟩ := exists_stop_of_resolve h
  cases hstop with
  | file _ _ hnode => exact ⟨_, _, hnode⟩

/-! ## Opening and writing -/

/-- Between the two states the file that the text leads to has been opened, or made there, and perhaps
written. -/
structure Staged (fs : FileSystem) (text : String) (id : NodeId) (after : FileSystem) : Prop where
  routes : SameRoutes fs after
  file : ∃ mode content, after.node id = .file mode content
  node : ∀ j, j ≠ id → after.node j = fs.node j
  entry : ∀ q, fs.resolve .find text = .ok (.vacant q) ∨ after.entryAt? q = fs.entryAt? q
  known : fs.resolve .find text = .ok (.file id) ∨ ∀ q, fs.entryAt? q ≠ some (.node id)

theorem Staged.setNode (h : fs.Staged text id after) (mode : ℕ) (content : List UInt8) :
    fs.Staged text id (after.setNode id (.file mode content)) := by
  obtain ⟨mode', content', hnode⟩ := h.file
  refine ⟨h.routes.trans (sameRoutes_setNode hnode mode content), ⟨mode, content, by simp⟩, ?_, ?_, h.known⟩
  · intro j hj
    rw [node_setNode, if_neg hj]
    exact h.node j hj
  · intro q
    rw [entryAt?_setNode]
    exact h.entry q

theorem staged_of_openToWrite (h : fs.openToWrite text mode = .ok (.file id, after)) :
    fs.Staged text id after := by
  obtain ⟨hroutes, -, mode', hempty⟩ := opened_of_openToWrite h
  rcases openToWrite_cases h with ⟨which, -, hdevice, -⟩ | ⟨j, hfind, hid, rfl⟩ | ⟨p, hfind, hid, rfl⟩
  · cases hdevice
  · cases hid
    obtain ⟨mode, content, hnode⟩ := node_of_resolve_file hfind
    rw [truncate_eq hnode] at hroutes ⊢
    refine ⟨hroutes, ⟨mode, [], by simp⟩, ?_, fun q => .inr rfl, .inl hfind⟩
    intro j hj
    rw [node_setNode, if_neg hj]
  · cases hid
    refine ⟨hroutes, ⟨mode', [], hempty⟩, ?_, ?_, .inr ?_⟩
    · intro j hj
      rw [node_addNode, if_neg hj]
    · intro q
      by_cases hq : q = p
      · exact .inl (hq ▸ hfind)
      · exact .inr (by rw [entryAt?_addNode, if_neg hq])
    · intro q hentry
      exact Nat.lt_irrefl _ (lt_freshId hentry)

theorem Staged.entryAt? {e : Entry} (h : fs.Staged text id after) (hentry : fs.entryAt? q = some e) :
    after.entryAt? q = some e := by
  rcases h.entry q with hvacant | hsame
  · rw [entryAt?_of_resolve_vacant hvacant] at hentry
    cases hentry
  · exact hsame.trans hentry

/-- A node that some entry names is the one that was opened, and a file, or the same as before. -/
theorem Staged.node_cases (h : fs.Staged text id after) (hentry : fs.entryAt? q = some (.node j)) :
    (j = id ∧ fs.resolve .find text = .ok (.file id)) ∨ after.node j = fs.node j := by
  by_cases hj : j = id
  · subst hj
    rcases h.known with hknown | hunknown
    · exact .inl ⟨rfl, hknown⟩
    · exact absurd hentry (hunknown q)
  · exact .inr (h.node j hj)

/-- What stands at the end of a walk goes on standing there. -/
theorem Staged.stop (h : fs.Staged text id after) (hstop : fs.Stop b (.ok t)) (ht : ∀ q, t ≠ .vacant q) :
    after.Stop b (.ok t) := by
  cases hstop with
  | directory p => exact .directory p
  | vacant => exact absurd rfl (ht _)
  | file hshort hentry hnode =>
    rcases h.node_cases hentry with ⟨rfl, -⟩ | hsame
    · obtain ⟨mode, content, hfile⟩ := h.file
      exact .file hshort (h.entryAt? hentry) hfile
    · exact .file hshort (h.entryAt? hentry) (hsame.trans hnode)
  | device hshort hentry hnode =>
    rcases h.node_cases hentry with ⟨rfl, hknown⟩ | hsame
    · obtain ⟨mode, content, hfile⟩ := node_of_resolve_file hknown
      rw [hnode] at hfile
      cases hfile
    · exact .device hshort (h.entryAt? hentry) (hsame.trans hnode)

theorem Staged.resolve (h : fs.Staged text id after) (hfind : fs.resolve .find other = .ok t)
    (ht : ∀ q, t ≠ .vacant q) : after.resolve .find other = .ok t := by
  obtain ⟨k, hk, b, hleads, hstop⟩ := exists_stop_of_resolve hfind
  exact h.routes.resolve_eq_of_stop (accepted_of_resolve hfind) hk hleads (h.stop hstop ht)

/-! ## Renaming -/

theorem Stop.moved (hstop : fs.Stop b (.ok t)) (hfree : ∀ q, b.facing? = some q → q ≠ old :: p ∧ q ≠ new :: p)
    (i : NodeId) : (fs.moved p old new i).Stop b (.ok t) := by
  have hentry (text : String) (rest : List Part) (hb : b = ⟨b.dir, .name text :: rest⟩) :
      (fs.moved p old new i).entryAt? (text :: b.dir) = fs.entryAt? (text :: b.dir) := by
    obtain ⟨hold, hnew⟩ := hfree (text :: b.dir) (by rw [hb]; rfl)
    exact entryAt?_moved hold hnew
  cases hstop with
  | directory q => exact .directory q
  | vacant hshort hvacant => exact .vacant hshort ((hentry _ _ rfl).trans hvacant)
  | file hshort hthere hnode => exact .file hshort ((hentry _ _ rfl).trans hthere) hnode
  | device hshort hthere hnode => exact .device hshort ((hentry _ _ rfl).trans hthere) hnode

/-- The file that `old` leads to has been opened and written, and then the name was moved to where nothing
was found. Other texts lead to what they led to, except that the way through the old name is lost. -/
theorem Staged.resolve_moved (h : fs.Staged text id after) (hfind : fs.resolve .find other = .ok t)
    (ht : ∀ q, t ≠ .vacant q) (hne : old ≠ new) (hold : IsName old)
    (hwalk : fs.walk .find n p [.name old] = .ok u) (hu : ∀ q, u ≠ .directory q)
    (hnew : (∃ q, fs.walk .find n p [.name new] = .ok (.vacant q)) ∨
      fs.walk .find n p [.name new] = .error (.system .noEntry)) (i : NodeId) :
    (after.moved p old new i).resolve .find other = .ok t ∨
      t = u ∧ (after.moved p old new i).resolve .find other = .ok (.vacant (old :: p)) := by
  obtain ⟨k, hk, b, hleads, hstop⟩ := exists_stop_of_resolve hfind
  have hacc := accepted_of_resolve hfind
  have hstart : (after.moved p old new i).workingDirectory = fs.workingDirectory :=
    h.routes.workingDirectory
  have hsame (q : Location) (hq : ¬(q = old :: p ∨ q = new :: p)) :
      (after.moved p old new i).turn? q = fs.turn? q :=
    (turn?_moved hq).trans (h.routes.turn q)
  rcases hleads.transfer hsame with ⟨hleads', hfree⟩ | ⟨j, m, c, q, hc, hc', hrest, hface, rfl | rfl⟩
  · left
    rw [← hstart] at hleads'
    refine resolve_eq_of_stop hacc hk hleads' ((h.stop hstop ht).moved ?_ i)
    intro q hq
    exact ⟨fun hold => hfree q hq (.inl hold), fun hnew => hfree q hq (.inr hnew)⟩
  · right
    obtain ⟨rest, rfl⟩ := Waypoint.eq_of_facing? hface
    obtain ⟨rfl, htarget⟩ := hstop.eq_of_through hrest hwalk (by simpa using hu) (by simp)
    have hvacant : (after.moved p old new i).Stop ⟨p, [.name old]⟩ (.ok (.vacant (old :: p))) :=
      .vacant hold.short (by simp [FileSystem.moved, hne])
    obtain ⟨l, rfl, -⟩ := hc.toward_end hleads hstop.onward?_eq_none
    rw [← hstart] at hc'
    exact ⟨(Except.ok.inj htarget).symm, resolve_eq_of_stop hacc (by omega) hc' hvacant⟩
  · -- a walk that gets somewhere does not go through a name under which nothing is found
    obtain ⟨rest, rfl⟩ := Waypoint.eq_of_facing? hface
    rcases hnew with ⟨q, hvacant⟩ | hnone
    · obtain ⟨-, htarget⟩ := hstop.eq_of_through hrest hvacant (by simp) (by simp)
      exact absurd (Except.ok.inj htarget).symm (ht q)
    · obtain ⟨-, htarget⟩ := hstop.eq_of_through hrest hnone (by simp) (by simp)
      cases htarget

end CollectionMarker.FileSystem
