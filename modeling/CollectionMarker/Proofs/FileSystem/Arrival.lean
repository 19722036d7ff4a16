import CollectionMarker.Proofs.FileSystem.Route

/-! What a walk comes to is settled at the waypoint where no move is left. A walk that comes back to
where it was never gets there. -/

namespace CollectionMarker.FileSystem

variable {fs fs' : FileSystem} {a b c : Waypoint} {j k l n : ℕ}

/-! ## Moves and the walk -/

variable {purpose : Purpose} {p : Location} {text : String} {rest : List Part}

/-- What a walk is for makes no difference on the way along these parts. -/
def Indifferent (purpose : Purpose) (parts : List Part) : Prop :=
  purpose = .find ∨ ∃ text, parts.getLast? = some (.name text)

theorem Indifferent.append {more : List Part} (h : Indifferent purpose more) (parts : List Part) :
    Indifferent purpose (parts ++ more) := by
  rcases h with h | ⟨text, h⟩
  · exact .inl h
  · exact .inr ⟨text, by simp [List.getLast?_append, h]⟩

theorem Indifferent.unclosed (h : Indifferent purpose (.name text :: rest)) :
    ¬(purpose = .create ∧ rest = [.slash]) := by
  rintro ⟨rfl, rfl⟩
  rcases h with h | ⟨_, h⟩ <;> simp at h

/-- A walk may be taken up after its first move, which uses up the links that it follows. -/
theorem walk_of_onward (next : fs.onward? a = some (j, b)) (h : Indifferent purpose a.ahead) (n : ℕ) :
    fs.walk purpose (j + n) a.dir a.ahead = fs.walk purpose n b.dir b.ahead := by
  obtain ⟨p, parts⟩ := a
  cases parts with
  | nil => simp [onward?] at next
  | cons part rest =>
    cases part with
    | here | slash | up =>
      simp only [onward?, Option.some.injEq, Prod.mk.injEq] at next
      obtain ⟨rfl, rfl⟩ := next
      rw [Nat.zero_add]
      cases n <;> rfl
    | name text =>
      have hslash := h.unclosed
      obtain ⟨hshort, ⟨hturn, rfl, rfl⟩ | ⟨target, hturn, rfl, rfl⟩⟩ := onward?_name_iff.1 next
      · obtain ⟨mode, hentry⟩ := turn?_eq_enter_iff.1 hturn
        rw [Nat.zero_add]
        cases n <;> simp only [walk, walkWith, if_neg hslash, if_neg hshort, hentry]
      · obtain ⟨id, hentry, hnode⟩ := turn?_eq_follow_iff.1 hturn
        rw [Nat.add_comm 1 n]
        simp only [walk, walkWith, if_neg hslash, if_neg hshort, hentry, hnode]

/-- Only a link is followed at a cost, so a walk that may follow none stops there. -/
theorem walk_zero_of_onward (next : fs.onward? a = some (j, b)) (hj : 0 < j) :
    j = 1 ∧ fs.walk .find 0 a.dir a.ahead = .error (.system .tooManyLinksFollowed) := by
  obtain ⟨p, parts⟩ := a
  cases parts with
  | nil => simp [onward?] at next
  | cons part rest =>
    cases part with
    | here | slash | up =>
      simp only [onward?, Option.some.injEq, Prod.mk.injEq] at next
      omega
    | name text =>
      obtain ⟨hshort, ⟨-, rfl, -⟩ | ⟨target, hturn, rfl, -⟩⟩ := onward?_name_iff.1 next
      · omega
      · obtain ⟨id, hentry, hnode⟩ := turn?_eq_follow_iff.1 hturn
        refine ⟨rfl, ?_⟩
        simp [walk, walkWith, hshort, hentry, hnode]

theorem Leads.walk_append {more : List Part} (h : fs.Leads a k b) (hmore : Indifferent purpose more)
    (n : ℕ) : fs.walk purpose (k + n) a.dir (a.ahead ++ more) =
      fs.walk purpose n b.dir (b.ahead ++ more) := by
  induction h with
  | stay => rw [Nat.zero_add]
  | @move a b c j k next _ ih =>
    rw [Nat.add_assoc, ← ih]
    exact walk_of_onward (onward?_extend next more) (hmore.append a.ahead) (k + n)

theorem Leads.walk_find (h : fs.Leads a k b) (n : ℕ) :
    fs.walk .find (k + n) a.dir a.ahead = fs.walk .find n b.dir b.ahead := by
  simpa using h.walk_append (.inl rfl : Indifferent .find []) n

/-- A walk that would have to follow more links than it may. -/
theorem Leads.walk_overrun (h : fs.Leads a k b) (hn : n < k) :
    fs.walk .find n a.dir a.ahead = .error (.system .tooManyLinksFollowed) := by
  induction h generalizing n with
  | stay => omega
  | @move a b c j k next _ ih =>
    rcases Nat.lt_or_ge n j with hj | hj
    · obtain ⟨rfl, hwalk⟩ := walk_zero_of_onward next (by omega)
      obtain rfl : n = 0 := by omega
      exact hwalk
    · obtain ⟨m, rfl⟩ := Nat.exists_eq_add_of_le hj
      rw [walk_of_onward next (.inl rfl)]
      exact ih (by omega)

/-- Without following a link, a walk comes to its end or to a link: every other move takes a part. -/
theorem end_or_link (fs : FileSystem) (a : Waypoint) :
    ∃ b, fs.Leads a 0 b ∧ (fs.onward? b = none ∨ ∃ c, fs.onward? b = some (1, c)) := by
  obtain ⟨p, parts⟩ := a
  induction parts generalizing p with
  | nil => exact ⟨_, .stay _, .inl rfl⟩
  | cons part rest ih =>
    cases part with
    | here | slash =>
      obtain ⟨b, hb, hend⟩ := ih p
      exact ⟨b, .move (j := 0) rfl hb, hend⟩
    | up =>
      obtain ⟨b, hb, hend⟩ := ih p.tail
      exact ⟨b, .move (j := 0) rfl hb, hend⟩
    | name text =>
      cases hnext : fs.onward? ⟨p, .name text :: rest⟩ with
      | none => exact ⟨_, .stay _, .inl hnext⟩
      | some move =>
        obtain ⟨j, c⟩ := move
        obtain ⟨-, ⟨-, rfl, rfl⟩ | ⟨_, -, rfl, -⟩⟩ := onward?_name_iff.1 hnext
        · obtain ⟨b, hb, hend⟩ := ih (text :: p)
          exact ⟨b, .move hnext hb, hend⟩
        · exact ⟨_, .stay _, .inr ⟨c, hnext⟩⟩

/-- Whatever links a walk may follow, it comes to an end or has more of them before it. -/
theorem end_or_overrun (fs : FileSystem) (n : ℕ) (a : Waypoint) :
    (∃ k ≤ n, ∃ b, fs.Leads a k b ∧ fs.onward? b = none) ∨ ∃ b, fs.Leads a (n + 1) b := by
  induction n generalizing a with
  | zero =>
    obtain ⟨b, hb, hend | ⟨c, hnext⟩⟩ := fs.end_or_link a
    · exact .inl ⟨0, Nat.le_refl 0, b, hb, hend⟩
    · exact .inr ⟨c, hb.trans (.one hnext)⟩
  | succ n ih =>
    obtain ⟨b, hb, hend | ⟨c, hnext⟩⟩ := fs.end_or_link a
    · exact .inl ⟨0, Nat.zero_le _, b, hb, hend⟩
    · have hc : fs.Leads a 1 c := hb.trans (.one hnext)
      rcases ih c with ⟨k, hk, d, hd, hend⟩ | ⟨d, hd⟩
      · exact .inl ⟨1 + k, by omega, d, hc.trans hd, hend⟩
      · exact .inr ⟨d, by simpa [Nat.add_comm] using hc.trans hd⟩

/-- A walk that comes back to where it was never ends. -/
theorem Leads.walk_loop {more : List Part} (h : fs.Leads a k (a.extend more)) (hk : 0 < k)
    (rest : List Part) (n : ℕ) :
    fs.walk .find n a.dir (a.ahead ++ rest) = .error (.system .tooManyLinksFollowed) := by
  have round : ∀ m, ∃ tail, fs.Leads a (m * k) (a.extend tail) := by
    intro m
    induction m with
    | zero => exact ⟨[], by simpa [Waypoint.extend] using Leads.stay a⟩
    | succ m ih =>
      obtain ⟨tail, htail⟩ := ih
      refine ⟨tail ++ more, ?_⟩
      have hback := h.trans (htail.extend more)
      rw [Waypoint.extend_extend] at hback
      rwa [Nat.succ_mul, Nat.add_comm]
  obtain ⟨tail, htail⟩ := round (n + 1)
  have hlong : n < (n + 1) * k := by
    have := Nat.le_mul_of_pos_right (n + 1) hk
    omega
  exact (htail.extend rest).walk_overrun hlong

theorem walkWith_find_of_create {follow follow' : Location → List Part → Except IoError Target}
    {t : Target} (hfollow : ∀ q parts, follow q parts = .ok t → follow' q parts = .ok t)
    {parts : List Part} (h : fs.walkWith .create follow p parts = .ok t) :
    fs.walkWith .find follow' p parts = .ok t := by
  induction parts generalizing p with
  | nil => exact h
  | cons part rest ih =>
    cases part with
    | here | slash | up => exact ih h
    | name text =>
      simp only [walkWith] at h ⊢
      split at h
      · cases h
      · rw [if_neg (by simp)]
        split at h
        · cases h
        · rename_i hshort
          rw [if_neg hshort]
          split at h
          · exact h
          · exact ih h
          · split at h
            · exact hfollow _ _ h
            · exact h
            · exact h

/-- The path that a file is opened or made under leads there for every purpose. -/
theorem walk_find_of_create {t : Target} {parts : List Part} (h : fs.walk .create n p parts = .ok t) :
    fs.walk .find n p parts = .ok t := by
  induction n generalizing p parts with
  | zero => exact walkWith_find_of_create (fun _ _ h => h) h
  | succ n ih => exact walkWith_find_of_create (fun _ _ h => ih h) h

def lookupErrorKinds : List ErrorKind :=
  [.notFound, .notADirectory, .isADirectory, .filesystemLoop, .invalidFilename]

theorem walkWith_error_kind {follow : Location → List Part → Except IoError Target} {e : IoError}
    (hfollow : ∀ q parts, follow q parts = .error e → e.kind ∈ lookupErrorKinds) {parts : List Part}
    (h : fs.walkWith purpose follow p parts = .error e) : e.kind ∈ lookupErrorKinds := by
  induction parts generalizing p with
  | nil => cases h
  | cons part rest ih =>
    cases part with
    | here | slash | up => exact ih h
    | name text =>
      simp only [walkWith] at h
      split at h
      · cases h
        decide
      · split at h
        · cases h
          decide
        · split at h
          · split at h <;> cases h
            decide
          · exact ih h
          · split at h
            · exact hfollow _ _ h
            · split at h <;> cases h
              decide
            · split at h <;> cases h
              decide

theorem walk_error_kind {parts : List Part} {e : IoError} (h : fs.walk purpose n p parts = .error e) :
    e.kind ∈ lookupErrorKinds := by
  induction n generalizing p parts with
  | zero =>
    refine walkWith_error_kind ?_ h
    rintro q more ⟨⟩
    decide
  | succ n ih => exact walkWith_error_kind (fun _ _ h => ih h) h

/-! ## The end of a walk -/

/-- What a walk comes to at a waypoint that it does not go on from. -/
inductive Stop (fs : FileSystem) : Waypoint → Except IoError Target → Prop
  | directory (p : Location) : Stop fs ⟨p, []⟩ (.ok (.directory p))
  | long {p : Location} {text : String} {rest : List Part}
      (hlong : Path.nameByteLimit < text.utf8ByteSize) :
      Stop fs ⟨p, .name text :: rest⟩ (.error (.system .nameTooLong))
  | vacant {p : Location} {text : String} (hshort : ¬Path.nameByteLimit < text.utf8ByteSize)
      (hentry : fs.entryAt? (text :: p) = none) :
      Stop fs ⟨p, [.name text]⟩ (.ok (.vacant (text :: p)))
  | missing {p : Location} {text : String} {rest : List Part}
      (hshort : ¬Path.nameByteLimit < text.utf8ByteSize)
      (hentry : fs.entryAt? (text :: p) = none) (hrest : rest ≠ []) :
      Stop fs ⟨p, .name text :: rest⟩ (.error (.system .noEntry))
  | file {p : Location} {text : String} {id : NodeId} {mode : ℕ} {content : List UInt8}
      (hshort : ¬Path.nameByteLimit < text.utf8ByteSize)
      (hentry : fs.entryAt? (text :: p) = some (.node id)) (hnode : fs.node id = .file mode content) :
      Stop fs ⟨p, [.name text]⟩ (.ok (.file id))
  | device {p : Location} {text : String} {id : NodeId} {which : Device}
      (hshort : ¬Path.nameByteLimit < text.utf8ByteSize)
      (hentry : fs.entryAt? (text :: p) = some (.node id)) (hnode : fs.node id = .device which) :
      Stop fs ⟨p, [.name text]⟩ (.ok (.device which))
  | blocked {p : Location} {text : String} {rest : List Part} {id : NodeId}
      (hshort : ¬Path.nameByteLimit < text.utf8ByteSize)
      (hentry : fs.entryAt? (text :: p) = some (.node id))
      (hnode : ∀ target, fs.node id ≠ .link target) (hrest : rest ≠ []) :
      Stop fs ⟨p, .name text :: rest⟩ (.error (.system .notDirectory))

variable {r : Except IoError Target}

theorem Stop.walk_eq (h : fs.Stop b r) (n : ℕ) : fs.walk .find n b.dir b.ahead = r := by
  cases h with
  | directory => cases n <;> rfl
  | long hlong => cases n <;> simp [walk, walkWith, hlong]
  | vacant hshort hentry => cases n <;> simp [walk, walkWith, hshort, hentry]
  | missing hshort hentry hrest => cases n <;> simp [walk, walkWith, hshort, hentry, hrest]
  | file hshort hentry hnode => cases n <;> simp [walk, walkWith, hshort, hentry, hnode]
  | device hshort hentry hnode => cases n <;> simp [walk, walkWith, hshort, hentry, hnode]
  | @blocked _ _ _ id hshort hentry hnode hrest =>
    cases hid : fs.node id with
    | link target => exact absurd hid (hnode target)
    | file => cases n <;> simp [walk, walkWith, hshort, hentry, hid, hrest]
    | device => cases n <;> simp [walk, walkWith, hshort, hentry, hid, hrest]

/-- At a last name it makes no difference what a walk is for. -/
theorem Stop.walk_name (h : fs.Stop ⟨p, [.name text]⟩ r) (purpose : Purpose) (n : ℕ) :
    fs.walk purpose n p [.name text] = r := by
  cases h with
  | long hlong => cases n <;> simp [walk, walkWith, hlong]
  | vacant hshort hentry => cases n <;> simp [walk, walkWith, hshort, hentry]
  | missing _ _ hrest => exact absurd rfl hrest
  | file hshort hentry hnode => cases n <;> simp [walk, walkWith, hshort, hentry, hnode]
  | device hshort hentry hnode => cases n <;> simp [walk, walkWith, hshort, hentry, hnode]
  | blocked _ _ _ hrest => exact absurd rfl hrest

theorem Stop.onward?_eq_none (h : fs.Stop b r) : fs.onward? b = none := by
  cases h with
  | directory => rfl
  | long hlong => exact onward?_eq_none_iff.2 (.inr ⟨_, _, rfl, .inl hlong⟩)
  | vacant _ hentry | missing _ hentry =>
    exact onward?_eq_none_iff.2 (.inr ⟨_, _, rfl, .inr (by simp [turn?, hentry])⟩)
  | file _ hentry hnode | device _ hentry hnode =>
    exact onward?_eq_none_iff.2 (.inr ⟨_, _, rfl, .inr (by simp [turn?, hentry, hnode])⟩)
  | blocked _ hentry hnode =>
    refine onward?_eq_none_iff.2 (.inr ⟨_, _, rfl, .inr ?_⟩)
    simp only [turn?, hentry]

/-- Where a walk gets somewhere, at most one part is left to look at. -/
theorem Stop.length_ahead_le {t : Target} (h : fs.Stop b (.ok t)) : b.ahead.length ≤ 1 := by
  cases h <;> simp

theorem exists_stop (hend : fs.onward? b = none) : ∃ r, fs.Stop b r := by
  obtain ⟨p, parts⟩ := b
  rcases onward?_eq_none_iff.1 hend with hnil | ⟨text, rest, hahead, hstop⟩
  · obtain rfl : parts = [] := hnil
    exact ⟨_, .directory p⟩
  · obtain rfl : parts = .name text :: rest := hahead
    by_cases hlong : Path.nameByteLimit < text.utf8ByteSize
    · exact ⟨_, .long hlong⟩
    · have hturn : fs.turn? (text :: p) = none := hstop.resolve_left hlong
      cases hentry : fs.entryAt? (text :: p) with
      | none =>
        cases rest with
        | nil => exact ⟨_, .vacant hlong hentry⟩
        | cons => exact ⟨_, .missing hlong hentry (List.cons_ne_nil _ _)⟩
      | some entry =>
        cases entry with
        | directory => simp [turn?, hentry] at hturn
        | node id =>
          have hnode (target : String) : fs.node id ≠ .link target := by
            intro hlink
            simp [turn?, hentry, hlink] at hturn
          cases rest with
          | nil =>
            cases hid : fs.node id with
            | link target => exact absurd hid (hnode target)
            | file => exact ⟨_, .file hlong hentry hid⟩
            | device => exact ⟨_, .device hlong hentry hid⟩
          | cons => exact ⟨_, .blocked hlong hentry hnode (List.cons_ne_nil _ _)⟩

/-- A walk that does not run out of links gets to its end. -/
theorem exists_stop_of_walk (h : fs.walk .find n a.dir a.ahead = r)
    (hr : r ≠ .error (.system .tooManyLinksFollowed)) :
    ∃ k ≤ n, ∃ b, fs.Leads a k b ∧ fs.Stop b r := by
  rcases fs.end_or_overrun n a with ⟨k, hk, b, hb, hend⟩ | ⟨b, hb⟩
  · obtain ⟨r', hstop⟩ := exists_stop hend
    obtain ⟨m, rfl⟩ := Nat.exists_eq_add_of_le hk
    rw [hb.walk_find, hstop.walk_eq] at h
    exact ⟨k, hk, b, hb, h ▸ hstop⟩
  · exact absurd (h.symm.trans (hb.walk_overrun (Nat.lt_succ_self n))) hr

theorem Stop.unique {r' : Except IoError Target} (h : fs.Stop b r) (h' : fs.Stop b r') : r = r' :=
  (h.walk_eq 0).symm.trans (h'.walk_eq 0)

/-- A walk that gets somewhere never comes back to where it was. -/
theorem Stop.not_loop {t : Target} {more : List Part} (hstop : fs.Stop b (.ok t)) (h : fs.Leads a k b)
    (hj : 0 < j) : ¬fs.Leads a j (a.extend more) := by
  intro hloop
  have hround := hloop.walk_loop hj [] k
  have hend := (h.walk_find 0).trans (hstop.walk_eq 0)
  rw [List.append_nil] at hround
  rw [Nat.add_zero, hround] at hend
  cases hend

/-- A walk that gets somewhere has taken its first parts before those added behind them. -/
theorem exists_leads_of_walk_append {parts more : List Part} {t : Target}
    (h : fs.walk .find n p (parts ++ more) = .ok t) (hmore : more ≠ []) :
    ∃ k m q, k + m = n ∧ fs.Leads ⟨p, parts⟩ k ⟨q, []⟩ ∧ fs.walk .find m q more = .ok t := by
  rcases fs.end_or_overrun n ⟨p, parts⟩ with ⟨k, hk, b, hb, hend⟩ | ⟨b, hb⟩
  · obtain ⟨m, rfl⟩ := Nat.exists_eq_add_of_le hk
    have hwalk := (hb.walk_append (.inl rfl) m).symm.trans h
    by_cases hahead : b.ahead = []
    · obtain ⟨q, parts'⟩ := b
      obtain rfl : parts' = [] := hahead
      exact ⟨k, m, q, rfl, hb, hwalk⟩
    · -- at a dead end with parts still ahead there is no target
      obtain ⟨r, hstop⟩ := exists_stop (onward?_extend_eq_none hend hahead more)
      obtain rfl : r = .ok t := (hstop.walk_eq m).symm.trans hwalk
      have hlength := hstop.length_ahead_le
      have := List.length_pos_iff.2 hahead
      have := List.length_pos_iff.2 hmore
      simp only [Waypoint.extend, List.length_append] at hlength
      omega
  · have hover := (hb.extend more).walk_overrun (Nat.lt_succ_self n)
    rw [Waypoint.extend_mk] at hover
    simp [h] at hover

def Unlinked (fs : FileSystem) (p : Location) : Prop :=
  ∀ target, fs.look p ≠ some (.node (.link target))

/-- Without a link under the last name, it makes no difference how many may be followed. -/
theorem Unlinked.walk_name (h : fs.Unlinked (text :: p)) (purpose : Purpose) (m n : ℕ) :
    fs.walk purpose m p [.name text] = fs.walk purpose n p [.name text] := by
  cases hentry : fs.entryAt? (text :: p) with
  | none => cases m <;> cases n <;> simp [walk, walkWith, hentry]
  | some entry =>
    cases entry with
    | directory => cases m <;> cases n <;> simp [walk, walkWith, hentry]
    | node id =>
      cases hnode : fs.node id with
      | link target => exact absurd (by simp [look, hentry, hnode]) (h target)
      | file | device => cases m <;> cases n <;> simp [walk, walkWith, hentry, hnode]

/-- Two names of one node lead to the same. -/
theorem walk_eq_of_entry {text other : String} {id : NodeId}
    (hshort : ¬Path.nameByteLimit < text.utf8ByteSize) (hshort' : ¬Path.nameByteLimit < other.utf8ByteSize)
    (hentry : fs.entryAt? (text :: p) = some (.node id))
    (hentry' : fs.entryAt? (other :: p) = some (.node id)) (n : ℕ) :
    fs.walk .find n p [.name text] = fs.walk .find n p [.name other] := by
  cases n <;> simp [walk, walkWith, hshort, hshort', hentry, hentry']

/-- A name that leads to a file is a node's. -/
theorem exists_entry_of_walk_file {id : NodeId} (hshort : ¬Path.nameByteLimit < text.utf8ByteSize)
    (h : fs.walk .find n p [.name text] = .ok (.file id)) :
    ∃ j, fs.entryAt? (text :: p) = some (.node j) := by
  cases hentry : fs.entryAt? (text :: p) with
  | none =>
    have hstop : fs.Stop ⟨p, [.name text]⟩ _ := .vacant hshort hentry
    simp [hstop.walk_eq n] at h
  | some entry =>
    cases entry with
    | node j => exact ⟨j, rfl⟩
    | directory mode =>
      have hnext : fs.onward? ⟨p, [.name text]⟩ = some (0, ⟨text :: p, []⟩) :=
        onward?_name_iff.2 ⟨hshort, .inl ⟨turn?_eq_enter_iff.2 ⟨mode, hentry⟩, rfl, rfl⟩⟩
      have hwalk := (Leads.one hnext).walk_find n
      rw [Nat.zero_add, h, (Stop.directory _).walk_eq n] at hwalk
      cases hwalk

end CollectionMarker.FileSystem
