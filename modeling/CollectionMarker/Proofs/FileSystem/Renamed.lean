import CollectionMarker.Proofs.FileSystem.Requests

/-! A name that leads to a file, moved to where no directory is. The directory is still found, and the
new name leads to the same file or back to itself, but it is never found missing: a walk from the new
name goes on as the one from the old name did until it meets the new name again. -/

namespace CollectionMarker.FileSystem

open CollectionMarker.Path

variable {fs : FileSystem} {dir name old new : String} {p q : Location} {id target : NodeId}
  {spare k m n : ℕ}

/-- A name in the directory `p` whose walk stops with a part still ahead, so at no directory. -/
def DeadEnd (fs : FileSystem) (p : Location) (name : String) : Prop :=
  ∃ k w, fs.Leads ⟨p, [.name name]⟩ k w ∧ fs.onward? w = none ∧ w.ahead ≠ []

theorem DeadEnd.congr {fs' : FileSystem} (hsame : SameRoutes fs fs') (h : fs.DeadEnd p name) :
    fs'.DeadEnd p name := by
  obtain ⟨k, w, hleads, hend, hahead⟩ := h
  refine ⟨k, w, hleads.congr hsame, ?_, hahead⟩
  rw [onward?_congr fun q _ => hsame.turn q, hend]

theorem DeadEnd.turn?_ne_enter (h : fs.DeadEnd p name) (hname : IsName name) :
    fs.turn? (name :: p) ≠ some .enter := by
  intro hturn
  obtain ⟨k, w, hleads, hend, hahead⟩ := h
  have hnext : fs.onward? ⟨p, [.name name]⟩ = some (0, ⟨name :: p, []⟩) :=
    onward?_name_iff.2 ⟨hname.short, .inl ⟨hturn, rfl, rfl⟩⟩
  obtain ⟨-, rfl⟩ := hleads.end_unique (.one hnext) hend rfl
  exact hahead rfl

/-- No walk to a directory passes through a dead end. -/
theorem DeadEnd.not_leads (h : fs.DeadEnd p name) {rest : List Part} :
    ¬fs.Leads ⟨p, .name name :: rest⟩ m ⟨q, []⟩ := by
  intro hpass
  obtain ⟨k, w, hleads, hend, hahead⟩ := h
  have hstuck := onward?_extend_eq_none hend hahead rest
  obtain ⟨-, heq⟩ := (hleads.extend rest).end_unique hpass hstuck rfl
  apply hahead
  have : (w.extend rest).ahead = [] := congrArg Waypoint.ahead heq
  exact (List.append_eq_nil_iff.1 this).1

theorem deadEnd_of_walk {r : Except IoError Target} (h : fs.walk .find n p [.name name] = r)
    (hdirectory : ∀ q, r ≠ .ok (.directory q)) (hlinks : r ≠ .error (.system .tooManyLinksFollowed)) :
    fs.DeadEnd p name := by
  obtain ⟨k, -, b, hleads, hstop⟩ := exists_stop_of_walk (a := ⟨p, [.name name]⟩) h hlinks
  refine ⟨k, b, hleads, hstop.onward?_eq_none, ?_⟩
  intro hnil
  cases hstop with
  | directory q => exact hdirectory q rfl
  | long | vacant | missing | file | device | blocked => cases hnil

/-! ## After the move -/

theorem entryAt?_moved (hold : q ≠ old :: p) (hnew : q ≠ new :: p) :
    (fs.moved p old new id).entryAt? q = fs.entryAt? q := by
  simp [FileSystem.moved, hold, hnew]

theorem turn?_moved (hq : ¬(q = old :: p ∨ q = new :: p)) :
    (fs.moved p old new id).turn? q = fs.turn? q := by
  have hentry : (fs.moved p old new id).entryAt? q = fs.entryAt? q :=
    entryAt?_moved (fun h => hq (.inl h)) (fun h => hq (.inr h))
  simp only [turn?, hentry]
  rfl

/-- Directories are still found after a move between names that lead to none. -/
theorem Home.moved (h : fs.Home dir q spare) (hold : fs.DeadEnd p old) (hnew : fs.DeadEnd p new)
    (id : NodeId) : (fs.moved p old new id).Home dir q spare := by
  obtain ⟨k, hk, hleads⟩ := h
  have hsame (q : Location) (hq : ¬(q = old :: p ∨ q = new :: p)) :
      (fs.moved p old new id).turn? q = fs.turn? q := turn?_moved hq
  rcases hleads.transfer hsame with ⟨hleads', -⟩ | ⟨j, m, c, q, -, -, hrest, hface, rfl | rfl⟩
  · exact ⟨k, hk, hleads'⟩
  · obtain ⟨rest, rfl⟩ := Waypoint.eq_of_facing? hface
    exact absurd hrest hold.not_leads
  · obtain ⟨rest, rfl⟩ := Waypoint.eq_of_facing? hface
    exact absurd hrest hnew.not_leads

/-- A name that is a link's goes on as the link's target does. -/
theorem onward?_link {text : String} (hname : IsName name) (hentry : fs.entryAt? (name :: p) = some (.node id))
    (hnode : fs.node id = .link text) : fs.onward? ⟨p, [.name name]⟩ =
      some (1, ⟨startOf (parse text) p, (parse text).parts⟩) :=
  onward?_name_iff.2 ⟨hname.short, .inr ⟨text, turn?_eq_follow_iff.2 ⟨id, hentry, hnode⟩, rfl, by simp⟩⟩

/-- A walk from one name of a directory comes to another. -/
def Meets (fs : FileSystem) (p : Location) (old new : String) : Prop :=
  ∃ k rest, fs.Leads ⟨p, [.name old]⟩ k ⟨p, .name new :: rest⟩

theorem Meets.congr {fs' : FileSystem} (hsame : SameRoutes fs fs') (h : fs.Meets p old new) :
    fs'.Meets p old new := by
  obtain ⟨k, rest, hleads⟩ := h
  exact ⟨k, rest, hleads.congr hsame⟩

/-- A name that leads on to another one is a link's. -/
theorem Meets.exists_link (h : fs.Meets p old new) (hne : old ≠ new)
    (hentry : fs.entryAt? (old :: p) = some (.node id)) :
    ∃ text k rest, fs.node id = .link text ∧
      fs.onward? ⟨p, [.name old]⟩ = some (1, ⟨startOf (parse text) p, (parse text).parts⟩) ∧
      fs.Leads ⟨startOf (parse text) p, (parse text).parts⟩ k ⟨p, .name new :: rest⟩ := by
  obtain ⟨k, rest, hleads⟩ := h
  cases hleads with
  | stay => exact absurd rfl hne
  | @move _ b _ j l next hrest =>
    obtain ⟨-, ⟨hturn, -, -⟩ | ⟨text, hturn, rfl, rfl⟩⟩ := onward?_name_iff.1 next
    · obtain ⟨mode, hdirectory⟩ := turn?_eq_enter_iff.1 hturn
      rw [hentry] at hdirectory
      cases hdirectory
    · obtain ⟨j, hentry', hnode⟩ := turn?_eq_follow_iff.1 hturn
      obtain rfl : id = j := by simpa [hentry] using hentry'
      rw [List.append_nil] at next hrest
      exact ⟨text, l, rest, hnode, next, hrest⟩

/-- The two names of one node do not meet, or neither would lead anywhere. -/
theorem Meets.entryAt?_ne (h : fs.Meets p old new) (hne : old ≠ new) (hnew : IsName new)
    (hentry : fs.entryAt? (old :: p) = some (.node id))
    (hfile : fs.walk .find n p [.name old] = .ok (.file target)) :
    fs.entryAt? (new :: p) ≠ some (.node id) := by
  intro hentry'
  obtain ⟨text, k, rest, hnode, hnext, hleads⟩ := h.exists_link hne hentry
  obtain ⟨l, -, b, hwalk, hstop⟩ := exists_stop_of_walk (a := ⟨p, [.name old]⟩) hfile (by simp)
  obtain ⟨m, -, hrest⟩ := (Leads.one hnext).toward_end hwalk hstop.onward?_eq_none
  have hback : fs.onward? ⟨p, .name new :: rest⟩ =
      some (1, Waypoint.extend ⟨startOf (parse text) p, (parse text).parts⟩ rest) :=
    onward?_name_iff.2 ⟨hnew.short, .inr ⟨text, turn?_eq_follow_iff.2 ⟨id, hentry', hnode⟩, rfl, rfl⟩⟩
  exact hstop.not_loop hrest (Nat.succ_pos k) (hleads.trans (.one hback))

/-- Moved to a name that its own walk meets, a link leads round in a circle. -/
theorem Meets.walk_moved (h : fs.Meets p old new) (hne : old ≠ new) (hnew : IsName new)
    (hentry : fs.entryAt? (old :: p) = some (.node id))
    (hfile : fs.walk .find n p [.name old] = .ok (.file target)) (m : ℕ) :
    (fs.moved p old new id).walk .find m p [.name new] = .error (.system .tooManyLinksFollowed) := by
  obtain ⟨text, k, rest, hnode, hnext, hleads⟩ := h.exists_link hne hentry
  obtain ⟨l, -, b, hwalk, hstop⟩ := exists_stop_of_walk (a := ⟨p, [.name old]⟩) hfile (by simp)
  have hentry' : (fs.moved p old new id).entryAt? (new :: p) = some (.node id) := by simp [FileSystem.moved]
  have hnext' : (fs.moved p old new id).onward? ⟨p, [.name new]⟩ = _ := onward?_link hnew hentry' hnode
  have hsame (q : Location) (hq : ¬(q = old :: p ∨ q = new :: p)) :
      (fs.moved p old new id).turn? q = fs.turn? q := turn?_moved hq
  rcases hleads.transfer hsame with ⟨-, hfree⟩ | ⟨j, i, c, q, hc, hc', -, hface, rfl | rfl⟩
  · exact absurd (.inr rfl) (hfree (new :: p) rfl)
  · -- the walk from the old name would have met that name again, and it did end
    obtain ⟨rest', rfl⟩ := Waypoint.eq_of_facing? hface
    have hback : fs.Leads ⟨p, [.name old]⟩ (1 + j) (Waypoint.extend ⟨p, [.name old]⟩ rest') :=
      .move hnext hc
    exact absurd hback (hstop.not_loop hwalk (by omega))
  · obtain ⟨rest', rfl⟩ := Waypoint.eq_of_facing? hface
    have hback : (fs.moved p old new id).Leads ⟨p, [.name new]⟩ (1 + j)
        (Waypoint.extend ⟨p, [.name new]⟩ rest') := .move hnext' hc'
    exact hback.walk_loop (by omega) [] m

/-- A link that led to a file leads to it under its new name, unless that name is met on the way. -/
theorem walk_moved_link {text : String} (hold : IsName old) (hnew : IsName new)
    (hentry : fs.entryAt? (old :: p) = some (.node id)) (hnode : fs.node id = .link text)
    (hfile : fs.walk .find n p [.name old] = .ok (.file target)) :
    (fs.moved p old new id).walk .find n p [.name new] = .ok (.file target) ∨ fs.Meets p old new := by
  have hentry' : (fs.moved p old new id).entryAt? (new :: p) = some (.node id) := by simp [FileSystem.moved]
  have hsame (q : Location) (hq : ¬(q = old :: p ∨ q = new :: p)) :
      (fs.moved p old new id).turn? q = fs.turn? q := turn?_moved hq
  have hnext := onward?_link hold hentry hnode
  have hnext' : (fs.moved p old new id).onward? ⟨p, [.name new]⟩ = _ := onward?_link hnew hentry' hnode
  obtain ⟨k, hk, b, hleads, hstop⟩ := exists_stop_of_walk (a := ⟨p, [.name old]⟩) hfile (by simp)
  obtain ⟨m, rfl, hrest⟩ := (Leads.one hnext).toward_end hleads hstop.onward?_eq_none
  obtain ⟨l, rfl⟩ := Nat.exists_eq_add_of_le hk
  rcases hrest.transfer hsame with ⟨hrest', hfree⟩ | ⟨j, i, c, q, hc, -, -, hface, rfl | rfl⟩
  · left
    cases hstop with
    | @file q text' _ mode content hshort hthere hcontent =>
      have hsteady := hfree (text' :: q) rfl
      have hthere' : (fs.moved p old new id).entryAt? (text' :: q) = some (.node target) :=
        (entryAt?_moved (fun h => hsteady (.inl h)) (fun h => hsteady (.inr h))).trans hthere
      have hstop' : (fs.moved p old new id).Stop ⟨q, [.name text']⟩ (.ok (.file target)) :=
        .file hshort hthere' hcontent
      exact ((Leads.move hnext' hrest').walk_find l).trans (hstop'.walk_eq l)
  · obtain ⟨rest, rfl⟩ := Waypoint.eq_of_facing? hface
    have hback : fs.Leads ⟨p, [.name old]⟩ (1 + j) (Waypoint.extend ⟨p, [.name old]⟩ rest) :=
      .move hnext hc
    exact absurd hback (hstop.not_loop hleads (by omega))
  · right
    obtain ⟨rest, rfl⟩ := Waypoint.eq_of_facing? hface
    exact ⟨1 + j, rest, .move hnext hc⟩

/-- The new name leads to the file that the old one led to, unless that one leads on to the new name. -/
theorem walk_moved (hold : IsName old) (hnew : IsName new) (hentry : fs.entryAt? (old :: p) = some (.node id))
    (hfile : fs.walk .find n p [.name old] = .ok (.file target)) :
    (fs.moved p old new id).walk .find n p [.name new] = .ok (.file target) ∨ fs.Meets p old new := by
  cases hnode : fs.node id with
  | file mode content =>
    have hhere : fs.Stop ⟨p, [.name old]⟩ (.ok (.file id)) := .file hold.short hentry hnode
    obtain rfl : target = id := by simpa [hfile] using hhere.walk_eq n
    have hentry' : (fs.moved p old new target).entryAt? (new :: p) = some (.node target) := by
      simp [FileSystem.moved]
    have hthere : (fs.moved p old new target).Stop ⟨p, [.name new]⟩ (.ok (.file target)) :=
      .file hnew.short hentry' hnode
    exact .inl (hthere.walk_eq n)
  | device which =>
    have hhere : fs.Stop ⟨p, [.name old]⟩ (.ok (.device which)) := .device hold.short hentry hnode
    simpa [hfile] using hhere.walk_eq n
  | link text => exact walk_moved_link hold hnew hentry hnode hfile

/-- What a renaming comes to, for a name that leads to a file and another that leads to no directory. -/
theorem Home.renamed_cases (hhome : fs.Home dir p spare) (hold : IsName old) (hnew : IsName new)
    (hacc : Accepted (join dir old)) (hacc' : Accepted (join dir new))
    (hfile : fs.walk .find spare p [.name old] = .ok (.file target)) (hdead : fs.DeadEnd p new) :
    ∃ id, fs.entryAt? (old :: p) = some (.node id) ∧
      ((fs.entryAt? (new :: p) = some (.node id) ∧ fs.rename (join dir old) (join dir new) = .ok fs) ∨
      (fs.entryAt? (new :: p) ≠ some (.node id) ∧
        fs.rename (join dir old) (join dir new) = .ok (fs.moved p old new id))) := by
  obtain ⟨id, hentry⟩ := exists_entry_of_walk_file hold.short hfile
  have hfree (mode : ℕ) : fs.entryAt? (new :: p) ≠ some (.directory mode) := by
    intro hdirectory
    exact hdead.turn?_ne_enter hnew (turn?_eq_enter_iff.2 ⟨mode, hdirectory⟩)
  have hrename := hhome.rename_join hold hnew hacc hacc' hentry hfree
  refine ⟨id, hentry, ?_⟩
  by_cases hsame : fs.entryAt? (new :: p) = some (.node id)
  · rw [if_pos hsame] at hrename
    exact .inl ⟨hsame, hrename⟩
  · rw [if_neg hsame] at hrename
    exact .inr ⟨hsame, hrename⟩

/-- Renaming a file to where no directory is succeeds, and what it leaves behind. -/
theorem Home.exists_renamed (hhome : fs.Home dir p spare) (hold : IsName old) (hnew : IsName new)
    (hne : old ≠ new) (hacc : Accepted (join dir old)) (hacc' : Accepted (join dir new))
    (hfile : fs.walk .find spare p [.name old] = .ok (.file target)) (hdead : fs.DeadEnd p new) :
    ∃ after, fs.rename (join dir old) (join dir new) = .ok after ∧ after.Home dir p spare ∧
      (∀ j, after.node j = fs.node j) ∧
      (after.walk .find spare p [.name new] = .ok (.file target) ∨
        after.walk .find spare p [.name new] = .error (.system .tooManyLinksFollowed)) := by
  obtain ⟨id, hentry, ⟨hentry', hrename⟩ | ⟨-, hrename⟩⟩ :=
    hhome.renamed_cases hold hnew hacc hacc' hfile hdead
  · exact ⟨fs, hrename, hhome, fun _ => rfl,
      .inl ((walk_eq_of_entry hnew.short hold.short hentry' hentry spare).trans hfile)⟩
  · have hwalk := walk_moved hold hnew hentry hfile
    exact ⟨_, hrename, hhome.moved (deadEnd_of_walk hfile (by simp) (by simp)) hdead id, fun _ => rfl,
      hwalk.imp_right fun hmeets => hmeets.walk_moved hne hnew hentry hfile spare⟩

end CollectionMarker.FileSystem
