import CollectionMarker.FileSystem.Handle
import CollectionMarker.FileSystem.Names
import CollectionMarker.Proofs.FileSystem.Arrival
import CollectionMarker.Proofs.FileSystem.PathText

/-! Names under a directory. A request that is given such a name walks to the directory first, so what
it comes to is decided by the entry there. -/

namespace CollectionMarker

def Handle.target : Handle → Target
  | .directory p => .directory p
  | .file id => .file id
  | .device which => .device which

namespace FileSystem

open CollectionMarker.Path

/-- `dir` leads to the directory `p`, from where `spare` more links may be followed. -/
def Home (fs : FileSystem) (dir : String) (p : Location) (spare : ℕ) : Prop :=
  ∃ k, k + spare = linkLimit ∧
    fs.Leads ⟨startOf (parse dir) fs.workingDirectory, steps dir⟩ k ⟨p, []⟩

variable {fs fs' : FileSystem} {dir name : String} {p : Location} {spare n : ℕ} {purpose : Purpose}

theorem Home.congr (hsame : SameRoutes fs fs') (h : fs.Home dir p spare) :
    fs'.Home dir p spare := by
  obtain ⟨k, hk, hleads⟩ := h
  exact ⟨k, hk, hsame.workingDirectory ▸ hleads.congr hsame⟩

theorem Home.unique {q : Location} {m : ℕ} (h : fs.Home dir p spare) (h' : fs.Home dir q m) :
    p = q ∧ spare = m := by
  obtain ⟨k, hk, hleads⟩ := h
  obtain ⟨l, hl, hleads'⟩ := h'
  obtain ⟨rfl, heq⟩ := hleads.end_unique hleads' rfl rfl
  exact ⟨congrArg Waypoint.dir heq, by omega⟩

theorem resolve_eq (h : Accepted name) : fs.resolve purpose name =
    fs.walk purpose linkLimit (startOf (parse name) fs.workingDirectory) (parse name).parts := by
  simp only [resolve, h.ofText]
  rfl

/-- A text without a NUL is refused as its walk is, or because it is empty or too long. -/
theorem resolve_error_kind {e : IoError} (hnul : '\x00' ∉ name.toList)
    (h : fs.resolve purpose name = .error e) : e.kind ∈ lookupErrorKinds := by
  rcases ofText_cases name with ⟨hmem, -⟩ | ⟨-, htext⟩ | ⟨-, htext⟩ | ⟨hacc, -⟩
  · exact absurd hmem hnul
  · obtain rfl : .system .noEntry = e := by simpa [resolve, htext, bind, Except.bind] using h
    decide
  · obtain rfl : .system .nameTooLong = e := by simpa [resolve, htext, bind, Except.bind] using h
    decide
  · rw [resolve_eq hacc] at h
    exact walk_error_kind h

theorem Home.resolve_join (h : fs.Home dir p spare) (hname : IsName name)
    (hacc : Accepted (join dir name)) :
    fs.resolve purpose (join dir name) = fs.walk purpose spare p [.name name] := by
  obtain ⟨k, hk, hleads⟩ := h
  rw [resolve_eq hacc, parse_join hname, ← hk]
  exact hleads.walk_append (.inr ⟨name, rfl⟩) spare

/-- Under two texts of one directory a name leads to the same, unless links would have to be followed on from
there. -/
theorem Home.resolve_join_congr {other : String} {spare' : ℕ} (h : fs.Home dir p spare)
    (h' : fs.Home other p spare') (hname : IsName name) (hacc : Accepted (join dir name))
    (hacc' : Accepted (join other name)) (hlink : fs.Unlinked (name :: p)) :
    fs.resolve purpose (join other name) = fs.resolve purpose (join dir name) := by
  rw [h.resolve_join hname hacc, h'.resolve_join hname hacc']
  exact hlink.walk_name purpose spare' spare

theorem accepted_of_resolve {t : Target} (h : fs.resolve purpose name = .ok t) : Accepted name := by
  cases htext : ofText name with
  | error e => simp [resolve, htext, bind, Except.bind] at h
  | ok path => exact (ofText_eq_ok_iff.1 htext).1

/-- A text leads to what stands where its walk stops. -/
theorem resolve_eq_of_stop {k : ℕ} {b : Waypoint} {r : Except IoError Target} (hacc : Accepted name)
    (hk : k ≤ linkLimit)
    (hleads : fs.Leads ⟨startOf (parse name) fs.workingDirectory, (parse name).parts⟩ k b)
    (hstop : fs.Stop b r) : fs.resolve .find name = r := by
  obtain ⟨m, hm⟩ := Nat.exists_eq_add_of_le hk
  rw [resolve_eq hacc, hm]
  exact (hleads.walk_find m).trans (hstop.walk_eq m)

/-- It does so also when the walk was found in another state. -/
theorem SameRoutes.resolve_eq_of_stop {k : ℕ} {b : Waypoint} {r : Except IoError Target}
    (hsame : SameRoutes fs fs') (hacc : Accepted name) (hk : k ≤ linkLimit)
    (hleads : fs.Leads ⟨startOf (parse name) fs.workingDirectory, (parse name).parts⟩ k b)
    (hstop : fs'.Stop b r) : fs'.resolve .find name = r :=
  FileSystem.resolve_eq_of_stop hacc hk (hsame.workingDirectory ▸ hleads.congr hsame) hstop

theorem exists_stop_of_resolve {t : Target} (h : fs.resolve .find name = .ok t) :
    ∃ k ≤ linkLimit, ∃ b,
      fs.Leads ⟨startOf (parse name) fs.workingDirectory, (parse name).parts⟩ k b ∧
      fs.Stop b (.ok t) := by
  rw [resolve_eq (accepted_of_resolve h)] at h
  exact exists_stop_of_walk (a := ⟨_, _⟩) h (by simp)

theorem resolve_find_of_create {t : Target} (h : fs.resolve .create name = .ok t) :
    fs.resolve .find name = .ok t := by
  have hacc := accepted_of_resolve h
  rw [resolve_eq hacc] at h ⊢
  exact walk_find_of_create h

/-- What is found under a directory shows that the directory is there. -/
theorem exists_home_of_resolve {t : Target} (hname : IsName name)
    (h : fs.resolve .find (join dir name) = .ok t) : ∃ p spare, fs.Home dir p spare := by
  rw [resolve_eq (accepted_of_resolve h), parse_join hname] at h
  obtain ⟨k, m, q, hk, hleads, -⟩ := exists_leads_of_walk_append h (List.cons_ne_nil _ _)
  exact ⟨q, m, k, hk, hleads⟩

theorem Home.directoryAt (h : fs.Home dir p spare) {parts : List Part} :
    fs.directoryAt ⟨(parse dir).absolute, parts⟩ (steps dir) = .ok p := by
  obtain ⟨k, hk, hleads⟩ := h
  have hwalk : fs.follow .find ⟨(parse dir).absolute, parts⟩ (steps dir) = .ok (.directory p) := by
    rw [follow, ← hk]
    exact (hleads.walk_find spare).trans ((Stop.directory p).walk_eq spare)
  rw [FileSystem.directoryAt, hwalk]
  rfl

/-- The place of a name under a text: the directory that the text leads to decides. -/
theorem slot_join (hname : IsName name) (fs : FileSystem) (dir : String) :
    fs.slot (parse (join dir name)) =
      (fs.directoryAt (parse dir) (steps dir)).map fun p => ⟨p, some (.name name), false⟩ := by
  have hdir : fs.directoryAt ⟨(parse dir).absolute, steps dir ++ [.name name]⟩ (steps dir) =
      fs.directoryAt (parse dir) (steps dir) := rfl
  rw [parse_join hname]
  cases h : fs.directoryAt (parse dir) (steps dir) <;> simp [slot, hdir, h, bind, Except.bind, pure, Except.pure,
    Except.map]

theorem Home.slot_join (h : fs.Home dir p spare) (hname : IsName name) :
    fs.slot (parse (join dir name)) = .ok ⟨p, some (.name name), false⟩ := by
  have hdir : fs.directoryAt (parse dir) (steps dir) = .ok p := h.directoryAt
  rw [FileSystem.slot_join hname, hdir]
  rfl

/-- Slashes at the end of a text are one more part. -/
theorem parse_parts (dir : String) :
    (parse dir).parts = steps dir ∨ (parse dir).parts = steps dir ++ [.slash] := by
  unfold parse
  split
  · exact .inr rfl
  · exact .inl rfl

theorem walk_slash (n : ℕ) (p : Location) : fs.walk .find n p [.slash] = .ok (.directory p) := by
  cases n <;> rfl

/-- A text is opened as what it leads to. -/
theorem openToRead_eq_ok_iff {handle : Handle} :
    fs.openToRead name = .ok handle ↔ fs.resolve .find name = .ok handle.target := by
  unfold openToRead
  cases fs.resolve .find name with
  | error => simp [bind, Except.bind]
  | ok t => cases t <;> cases handle <;> simp [Handle.target, bind, Except.bind]

theorem openToRead_eq_directory_iff :
    fs.openToRead name = .ok (.directory p) ↔ fs.resolve .find name = .ok (.directory p) :=
  openToRead_eq_ok_iff

/-- A directory can be opened under its own text. -/
theorem Home.openToRead (h : fs.Home dir p spare) (hacc : Accepted dir) :
    fs.openToRead dir = .ok (.directory p) := by
  obtain ⟨k, hk, hleads⟩ := h
  rw [openToRead_eq_directory_iff, resolve_eq hacc, ← hk]
  rcases parse_parts dir with hparts | hparts
  · rw [hparts]
    exact (hleads.walk_find spare).trans ((Stop.directory p).walk_eq spare)
  · rw [hparts]
    exact (hleads.walk_append (.inl rfl) spare).trans (walk_slash spare p)

theorem exists_home_of_openToRead (h : fs.openToRead dir = .ok (.directory p)) :
    Accepted dir ∧ ∃ spare, fs.Home dir p spare := by
  rw [openToRead_eq_directory_iff] at h
  have hacc := accepted_of_resolve h
  refine ⟨hacc, ?_⟩
  rw [resolve_eq hacc] at h
  rcases parse_parts dir with hparts | hparts
  · rw [hparts] at h
    obtain ⟨k, hk, b, hleads, hstop⟩ := exists_stop_of_walk (a := ⟨_, steps dir⟩) h (by simp)
    cases hstop
    exact ⟨linkLimit - k, k, by omega, hleads⟩
  · rw [hparts] at h
    obtain ⟨k, m, q, hk, hleads, hslash⟩ := exists_leads_of_walk_append h (List.cons_ne_nil _ _)
    obtain rfl : q = p := by simpa [walk_slash] using hslash
    exact ⟨m, k, hk, hleads⟩

/-- What is found under a directory shows that the directory can be opened. -/
theorem exists_openToRead_of_resolve {t : Target} (hname : IsName name) (hdir : dir ≠ "")
    (h : fs.resolve .find (join dir name) = .ok t) : ∃ p, fs.openToRead dir = .ok (.directory p) := by
  obtain ⟨p, spare, hhome⟩ := exists_home_of_resolve hname h
  exact ⟨p, hhome.openToRead ((accepted_of_resolve h).dir hdir)⟩

/-! ## Texts that nothing is found under -/

/-- No entry stands where the text leads, or on the way there. -/
def Missing (fs : FileSystem) (text : String) : Prop :=
  (∃ p, fs.resolve .find text = .ok (.vacant p)) ∨ fs.resolve .find text = .error (.system .noEntry)

theorem eq_noEntry_of_ofText {e : IoError} (h : ofText name = .error e) (hkind : e.kind = .notFound) :
    e = .system .noEntry := by
  rcases ofText_cases name with ⟨-, heq⟩ | ⟨-, heq⟩ | ⟨-, heq⟩ | ⟨-, heq⟩ <;> rw [heq] at h <;> cases h
  · cases hkind
  · rfl
  · cases hkind

/-- A look-up fails as not found only where an entry was missing. -/
theorem eq_noEntry_of_resolve {e : IoError} (h : fs.resolve .find name = .error e)
    (hkind : e.kind = .notFound) : e = .system .noEntry := by
  cases htext : ofText name with
  | error e' =>
    obtain rfl : e' = e := by simpa [resolve, htext, bind, Except.bind] using h
    exact eq_noEntry_of_ofText htext hkind
  | ok path =>
    rw [resolve_eq (ofText_eq_ok_iff.1 htext).1] at h
    have hlinks : (.error e : Except IoError Target) ≠ .error (.system .tooManyLinksFollowed) := by
      rintro ⟨⟩
      cases hkind
    obtain ⟨_, _, _, _, hstop⟩ := exists_stop_of_walk (a := ⟨_, _⟩) h hlinks
    cases hstop with
    | missing => rfl
    | long => cases hkind
    | blocked => cases hkind

theorem Missing.nul_not_mem (h : fs.Missing name) : '\x00' ∉ name.toList := by
  intro hmem
  rcases h with ⟨p, h⟩ | h <;> simp [resolve, ofText_of_nul_mem hmem, bind, Except.bind] at h

theorem Missing.congr (hsame : SameRoutes fs fs')
    (hvacant : ∀ p, fs.entryAt? p = none → fs'.entryAt? p = none) (h : fs.Missing name) :
    fs'.Missing name := by
  rcases h with ⟨p, h⟩ | h
  · obtain ⟨k, hk, b, hleads, hstop⟩ := exists_stop_of_resolve h
    cases hstop with
    | vacant hshort hentry =>
      exact .inl ⟨_, hsame.resolve_eq_of_stop (accepted_of_resolve h) hk hleads
        (.vacant hshort (hvacant _ hentry))⟩
  · right
    cases htext : ofText name with
    | error e =>
      obtain rfl : e = .system .noEntry := by simpa [resolve, htext, bind, Except.bind] using h
      simp [resolve, htext, bind, Except.bind]
    | ok path =>
      have hacc := (ofText_eq_ok_iff.1 htext).1
      rw [resolve_eq hacc] at h
      obtain ⟨k, hk, b, hleads, hstop⟩ := exists_stop_of_walk (a := ⟨_, _⟩) h (by simp)
      cases hstop with
      | missing hshort hentry hrest =>
        exact hsame.resolve_eq_of_stop hacc hk hleads (.missing hshort (hvacant _ hentry) hrest)

theorem missing_iff : fs.Missing name ↔
    ∃ e, fs.openToRead name = .error e ∧ e.kind = .notFound := by
  unfold Missing openToRead
  constructor
  · rintro (⟨p, h⟩ | h) <;> exact ⟨.system .noEntry, by rw [h]; rfl, rfl⟩
  · rintro ⟨e, h, hkind⟩
    cases hresolve : fs.resolve .find name with
    | error e' =>
      obtain rfl : e' = e := by simpa [hresolve, bind, Except.bind] using h
      rw [eq_noEntry_of_resolve hresolve hkind]
      exact .inr rfl
    | ok t =>
      cases t with
      | vacant p => exact .inl ⟨p, rfl⟩
      | directory | file | device => simp [hresolve, bind, Except.bind] at h

end FileSystem
end CollectionMarker
