import CollectionMarker.FileSystem.Walk
import Mathlib.Data.Nat.Notation
import Mathlib.Tactic.Common

/-! A walk taken move by move. Moves are determined and look at one entry each, so walks in two states
are compared by their moves, without the bound on links. -/

namespace CollectionMarker

/-- A point of a walk: the directory it has come to and the parts still ahead. -/
structure Waypoint where
  dir : Location
  ahead : List Part

def Waypoint.facing? (w : Waypoint) : Option Location :=
  match w.ahead with
  | .name text :: _ => some (text :: w.dir)
  | _ => none

theorem Waypoint.eq_of_facing? {w : Waypoint} {p : Location} {name : String}
    (h : w.facing? = some (name :: p)) :
    ∃ rest, w = ⟨p, .name name :: rest⟩ := by
  obtain ⟨q, parts⟩ := w
  rcases parts with - | ⟨- | - | text | -, rest⟩ <;> simp [Waypoint.facing?] at h
  obtain ⟨rfl, rfl⟩ := h
  exact ⟨rest, rfl⟩

def Waypoint.extend (w : Waypoint) (more : List Part) : Waypoint := ⟨w.dir, w.ahead ++ more⟩

@[simp] theorem Waypoint.extend_mk (p : Location) (parts more : List Part) :
    Waypoint.extend ⟨p, parts⟩ more = ⟨p, parts ++ more⟩ := rfl

theorem Waypoint.extend_extend (w : Waypoint) (more yet : List Part) :
    (w.extend more).extend yet = w.extend (more ++ yet) := by
  simp [Waypoint.extend]

inductive Turn
  | enter
  | follow (target : String)
  deriving DecidableEq

namespace FileSystem

/-- Where nothing stands, and at files and devices, no walk goes on. -/
def turn? (fs : FileSystem) (p : Location) : Option Turn :=
  match fs.entryAt? p with
  | some (.directory _) => some .enter
  | some (.node id) => match fs.node id with
    | .link target => some (.follow target)
    | _ => none
  | none => none

/-- The next move of a walk, with the number of links it follows. -/
def onward? (fs : FileSystem) : Waypoint → Option (ℕ × Waypoint)
  | ⟨_, []⟩ => none
  | ⟨p, .here :: rest⟩ | ⟨p, .slash :: rest⟩ => some (0, ⟨p, rest⟩)
  | ⟨p, .up :: rest⟩ => some (0, ⟨p.tail, rest⟩)
  | ⟨p, .name text :: rest⟩ =>
    if Path.nameByteLimit < text.utf8ByteSize then none
    else match fs.turn? (text :: p) with
      | some .enter => some (0, ⟨text :: p, rest⟩)
      | some (.follow target) =>
        some (1, ⟨startOf (Path.parse target) p, (Path.parse target).parts ++ rest⟩)
      | none => none

/-- Moves lead from one waypoint to another, with that many links followed. -/
inductive Leads (fs : FileSystem) : Waypoint → ℕ → Waypoint → Prop
  | stay (a : Waypoint) : Leads fs a 0 a
  | move {a b c : Waypoint} {j k : ℕ} (next : fs.onward? a = some (j, b)) (rest : Leads fs b k c) :
      Leads fs a (j + k) c

variable {fs fs' : FileSystem} {a b c : Waypoint} {j k l n : ℕ}

theorem Leads.one (h : fs.onward? a = some (j, b)) : fs.Leads a j b :=
  .move h (.stay b)

theorem Leads.trans (h : fs.Leads a k b) (h' : fs.Leads b l c) : fs.Leads a (k + l) c := by
  induction h with
  | stay => simpa using h'
  | move next _ ih =>
    rw [Nat.add_assoc]
    exact .move next (ih h')

theorem turn?_eq_enter_iff {p : Location} :
    fs.turn? p = some .enter ↔ ∃ mode, fs.entryAt? p = some (.directory mode) := by
  rw [turn?]
  split
  · rename_i hentry
    simp [hentry]
  · rename_i hentry
    split <;> simp [hentry]
  · rename_i hentry
    simp [hentry]

theorem turn?_eq_follow_iff {p : Location} {target : String} :
    fs.turn? p = some (.follow target) ↔
      ∃ id, fs.entryAt? p = some (.node id) ∧ fs.node id = .link target := by
  rw [turn?]
  split
  · rename_i hentry
    simp [hentry]
  · rename_i hentry
    split
    · rename_i hnode
      simp [hentry, hnode]
    · rename_i hnode
      simpa [hentry] using hnode target
  · rename_i hentry
    simp [hentry]

/-- What a move at a name comes to: a directory is entered, a link is replaced by its target. -/
theorem onward?_name_iff {p : Location} {text : String} {rest : List Part} :
    fs.onward? ⟨p, .name text :: rest⟩ = some (j, b) ↔
      ¬Path.nameByteLimit < text.utf8ByteSize ∧
      ((fs.turn? (text :: p) = some .enter ∧ j = 0 ∧ b = ⟨text :: p, rest⟩) ∨
      ∃ target, fs.turn? (text :: p) = some (.follow target) ∧ j = 1 ∧
        b = ⟨startOf (Path.parse target) p, (Path.parse target).parts ++ rest⟩) := by
  by_cases hlong : Path.nameByteLimit < text.utf8ByteSize
  · simp [onward?, hlong]
  · cases hturn : fs.turn? (text :: p) with
    | none => simp [onward?, hturn]
    | some turn => cases turn <;> simp [onward?, hlong, hturn, eq_comm]

theorem onward?_extend (h : fs.onward? a = some (j, b)) (more : List Part) :
    fs.onward? (a.extend more) = some (j, b.extend more) := by
  obtain ⟨p, parts⟩ := a
  cases parts with
  | nil => simp [onward?] at h
  | cons part rest =>
    cases part with
    | here | slash | up =>
      simp only [onward?, Option.some.injEq, Prod.mk.injEq] at h
      obtain ⟨rfl, rfl⟩ := h
      rfl
    | name text =>
      apply onward?_name_iff.2
      obtain ⟨hshort, ⟨hturn, rfl, rfl⟩ | ⟨target, hturn, rfl, rfl⟩⟩ := onward?_name_iff.1 h
      · exact ⟨hshort, .inl ⟨hturn, rfl, rfl⟩⟩
      · exact ⟨hshort, .inr ⟨target, hturn, rfl, by simp⟩⟩

/-- Parts added behind wait until those before them are taken. -/
theorem Leads.extend (h : fs.Leads a k b) (more : List Part) :
    fs.Leads (a.extend more) k (b.extend more) := by
  induction h with
  | stay a => exact .stay _
  | move next _ ih => exact .move (onward?_extend next more) ih

/-- Of two waypoints on one walk, one lies behind the other. -/
theorem Leads.linear (h : fs.Leads a k b) (h' : fs.Leads a l c) :
    (∃ m, l = k + m ∧ fs.Leads b m c) ∨ ∃ m, k = l + m ∧ fs.Leads c m b := by
  induction h generalizing l with
  | stay a => exact .inl ⟨l, by simp, h'⟩
  | @move a d b i k next rest ih =>
    cases h' with
    | stay => exact .inr ⟨i + k, by simp, .move next rest⟩
    | @move _ d' _ i' l' next' rest' =>
      obtain ⟨rfl, rfl⟩ : i = i' ∧ d = d' := by simpa [next] using next'
      rcases ih rest' with ⟨m, rfl, hm⟩ | ⟨m, rfl, hm⟩
      · exact .inl ⟨m, by rw [Nat.add_assoc], hm⟩
      · exact .inr ⟨m, by rw [Nat.add_assoc], hm⟩

theorem Leads.of_stuck (h : fs.Leads a k b) (ha : fs.onward? a = none) : k = 0 ∧ b = a := by
  cases h with
  | stay => exact ⟨rfl, rfl⟩
  | move next => simp [ha] at next

/-- From everywhere on a walk its end lies ahead. -/
theorem Leads.toward_end (h : fs.Leads a k b) (h' : fs.Leads a l c) (hc : fs.onward? c = none) :
    ∃ m, l = k + m ∧ fs.Leads b m c := by
  rcases h.linear h' with hm | ⟨m, rfl, hm⟩
  · exact hm
  · obtain ⟨rfl, rfl⟩ := hm.of_stuck hc
    exact ⟨0, rfl, .stay _⟩

/-- A walk has at most one end. -/
theorem Leads.end_unique (h : fs.Leads a k b) (h' : fs.Leads a l c)
    (hb : fs.onward? b = none) (hc : fs.onward? c = none) : k = l ∧ b = c := by
  obtain ⟨m, rfl, hm⟩ := h.toward_end h' hc
  obtain ⟨rfl, rfl⟩ := hm.of_stuck hb
  exact ⟨rfl, rfl⟩

theorem onward?_eq_none_iff : fs.onward? a = none ↔ a.ahead = [] ∨
    ∃ text rest, a.ahead = .name text :: rest ∧
      (Path.nameByteLimit < text.utf8ByteSize ∨ fs.turn? (text :: a.dir) = none) := by
  obtain ⟨p, parts⟩ := a
  cases parts with
  | nil => simp [onward?]
  | cons part rest =>
    cases part with
    | here | slash | up => simp [onward?]
    | name text =>
      by_cases hlong : Path.nameByteLimit < text.utf8ByteSize
      · simp [onward?, hlong]
      · cases hturn : fs.turn? (text :: p) with
        | none => simp [onward?, hturn]
        | some turn => cases turn <;> simp [onward?, hlong, hturn]

/-- A dead end stays one when more parts are added behind it. -/
theorem onward?_extend_eq_none (h : fs.onward? a = none) (ha : a.ahead ≠ []) (more : List Part) :
    fs.onward? (a.extend more) = none := by
  rcases onward?_eq_none_iff.1 h with hnil | ⟨text, rest, heq, hstop⟩
  · exact absurd hnil ha
  · exact onward?_eq_none_iff.2 (.inr ⟨text, rest ++ more, by simp [Waypoint.extend, heq], hstop⟩)

/-! ## The same walk in another state -/

theorem onward?_congr (h : ∀ p, a.facing? = some p → fs'.turn? p = fs.turn? p) :
    fs'.onward? a = fs.onward? a := by
  obtain ⟨p, parts⟩ := a
  rcases parts with - | ⟨- | - | text | -, rest⟩
  case cons.name => simp only [onward?, h (text :: p) rfl]
  all_goals rfl

/-- Walks go the same way in both states, whatever they come to. -/
structure SameRoutes (fs fs' : FileSystem) : Prop where
  turn : ∀ p, fs'.turn? p = fs.turn? p
  workingDirectory : fs'.workingDirectory = fs.workingDirectory

theorem SameRoutes.refl (fs : FileSystem) : SameRoutes fs fs := ⟨fun _ => rfl, rfl⟩

theorem SameRoutes.symm (h : SameRoutes fs fs') : SameRoutes fs' fs :=
  ⟨fun p => (h.turn p).symm, h.workingDirectory.symm⟩

theorem SameRoutes.trans {fs'' : FileSystem} (h : SameRoutes fs fs') (h' : SameRoutes fs' fs'') :
    SameRoutes fs fs'' :=
  ⟨fun p => (h'.turn p).trans (h.turn p), h'.workingDirectory.trans h.workingDirectory⟩

/-- What can be seen at a location decides how a walk goes on there. -/
theorem turn?_eq_of_look (fs : FileSystem) (p : Location) : fs.turn? p = match fs.look p with
    | some (.directory _) => some .enter
    | some (.node (.link target)) => some (.follow target)
    | _ => none := by
  unfold turn? look
  cases fs.entryAt? p with
  | none => rfl
  | some entry =>
    cases entry with
    | directory => rfl
    | node id => cases h : fs.node id <;> simp [h]

theorem sameRoutes_of_look (hlook : fs'.look = fs.look)
    (hstart : fs'.workingDirectory = fs.workingDirectory) : SameRoutes fs fs' := by
  refine ⟨?_, hstart⟩
  intro p
  rw [turn?_eq_of_look, turn?_eq_of_look, hlook]

theorem Leads.congr (hsame : SameRoutes fs fs') (h : fs.Leads a k b) : fs'.Leads a k b := by
  induction h with
  | stay a => exact .stay a
  | move next _ ih => exact .move ((onward?_congr fun p _ => hsame.turn p).trans next) ih

/-- A walk goes the same way in a state that differs at some locations, or it comes to one of those. -/
theorem Leads.transfer {changed : Location → Prop} (hsame : ∀ p, ¬changed p → fs'.turn? p = fs.turn? p)
    (h : fs.Leads a k b) :
    (fs'.Leads a k b ∧ ∀ p, b.facing? = some p → ¬changed p) ∨
    ∃ j m c p, fs.Leads a j c ∧ fs'.Leads a j c ∧ fs.Leads c m b ∧ c.facing? = some p ∧ changed p := by
  induction h with
  | stay a =>
    by_cases hface : ∃ p, a.facing? = some p ∧ changed p
    · obtain ⟨p, hp, hchanged⟩ := hface
      exact .inr ⟨0, 0, a, p, .stay a, .stay a, .stay a, hp, hchanged⟩
    · exact .inl ⟨.stay a, fun p hp hchanged => hface ⟨p, hp, hchanged⟩⟩
  | @move a b d j k next rest ih =>
    by_cases hface : ∃ p, a.facing? = some p ∧ changed p
    · obtain ⟨p, hp, hchanged⟩ := hface
      exact .inr ⟨0, j + k, a, p, .stay a, .stay a, .move next rest, hp, hchanged⟩
    · have next' : fs'.onward? a = some (j, b) :=
        (onward?_congr fun p hp => hsame p fun hchanged => hface ⟨p, hp, hchanged⟩).trans next
      rcases ih with ⟨hrest, hfree⟩ | ⟨i, m, c, p, hc, hc', hrest, hp, hchanged⟩
      · exact .inl ⟨.move next' hrest, hfree⟩
      · exact .inr ⟨j + i, m, c, p, .move next hc, .move next' hc', hrest, hp, hchanged⟩

end FileSystem
end CollectionMarker
