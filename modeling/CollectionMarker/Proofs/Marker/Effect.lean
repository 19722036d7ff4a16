import Mathlib.Logic.Function.Basic
import CollectionMarker.Proofs.Marker.Phases

/-! What a publication makes of the tree where the staging file has no other name: the staging name is
gone, the marker stands there whole, and nothing else can be seen to change. -/

namespace CollectionMarker

namespace FileSystem

variable {fs fs' after : FileSystem} {p q : Location} {id : NodeId} {n : Node} {old new : String}
  {mode : ℕ} {content : List UInt8}

/-- Nothing stands there but perhaps a regular file that has no other name. -/
def Lone (fs : FileSystem) (p : Location) : Prop :=
  fs.entryAt? p = none ∨ ∃ id mode content, fs.entryAt? p = some (.node id) ∧
    fs.node id = .file mode content ∧ ∀ q, fs.entryAt? q = some (.node id) → q = p

theorem Lone.plain (h : fs.Lone p) : fs.Plain p := by
  rcases h with hvacant | ⟨id, mode, content, hentry, hnode, -⟩
  · exact .inl (look_eq_none_iff.2 hvacant)
  · exact plain_of_file hentry hnode

theorem lone_of_rows (hentry : fs.entryAt? p = some (.node id)) (hnode : fs.node id = .file mode content)
    (hrows : ∀ row ∈ fs.entries.rows, row.2 = .node id → row.1 = p) : fs.Lone p :=
  .inr ⟨id, mode, content, hentry, hnode, fun _ hq => hrows _ (Table.mem_rows_of_get? hq) rfl⟩

theorem look_congr (hentry : fs'.entryAt? p = fs.entryAt? p)
    (hnode : ∀ id, fs.entryAt? p = some (.node id) → fs'.node id = fs.node id) :
    fs'.look p = fs.look p := by
  unfold look
  rw [hentry]
  cases hthere : fs.entryAt? p with
  | none => rfl
  | some entry =>
    cases entry with
    | directory => rfl
    | node id => simp [hnode id hthere]

/-- A node was put under a name, and no other name stands for it. -/
structure Prepared (fs : FileSystem) (p : Location) (id : NodeId) (n : Node) (after : FileSystem) : Prop where
  entry : after.entryAt? p = some (.node id)
  node : after.node id = n
  unnamed : ∀ q, q ≠ p → fs.entryAt? q ≠ some (.node id)
  entries : ∀ q, q ≠ p → after.entryAt? q = fs.entryAt? q
  nodes : ∀ j, j ≠ id → after.node j = fs.node j

theorem prepared_addNode (fs : FileSystem) (p : Location) (n : Node) :
    fs.Prepared p fs.freshId n (fs.addNode p n) where
  entry := by simp
  node := by simp
  unnamed := fun q _ hq => Nat.lt_irrefl _ (lt_freshId hq)
  entries := fun q hq => by rw [entryAt?_addNode, if_neg hq]
  nodes := fun j hj => by rw [node_addNode, if_neg hj]

theorem prepared_setNode (hentry : fs.entryAt? p = some (.node id))
    (hlone : ∀ q, fs.entryAt? q = some (.node id) → q = p) (n : Node) :
    fs.Prepared p id n (fs.setNode id n) where
  entry := hentry
  node := by simp
  unnamed := fun q hq hother => hq (hlone q hother)
  entries := fun q _ => rfl
  nodes := fun j hj => by rw [node_setNode, if_neg hj]

theorem Prepared.setNode (h : fs.Prepared p id n after) (m : Node) : fs.Prepared p id m (after.setNode id m) where
  entry := h.entry
  node := by simp
  unnamed := h.unnamed
  entries := h.entries
  nodes := fun j hj => by
    rw [node_setNode, if_neg hj]
    exact h.nodes j hj

/-- Moved to another name, the node is all that can be seen to have come. -/
theorem Prepared.look_moved (h : fs.Prepared (old :: p) id n after) :
    (after.moved p old new id).look =
      Function.update (Function.update fs.look (old :: p) none) (new :: p) (some (.node n)) := by
  funext q
  by_cases hnew : q = new :: p
  · rw [hnew, Function.update_self, look_eq_node_iff]
    exact ⟨id, by simp [FileSystem.moved], h.node⟩
  · rw [Function.update_of_ne hnew]
    by_cases hold : q = old :: p
    · rw [hold] at hnew ⊢
      rw [Function.update_self, look_eq_none_iff]
      simp [FileSystem.moved, hnew]
    · rw [Function.update_of_ne hold]
      refine look_congr ((entryAt?_moved hold hnew).trans (h.entries q hold)) ?_
      intro j hj
      have hother : j ≠ id := fun hid => h.unnamed q hold (hid ▸ hj)
      exact h.nodes j hother

theorem Prepared.lone_moved (h : fs.Prepared (old :: p) id n after) (hlone : fs.Lone q) (hold : q ≠ old :: p)
    (hnew : q ≠ new :: p) : (after.moved p old new id).Lone q := by
  have hsame (q : Location) (hold : q ≠ old :: p) (hnew : q ≠ new :: p) :
      (after.moved p old new id).entryAt? q = fs.entryAt? q :=
    (entryAt?_moved hold hnew).trans (h.entries q hold)
  rcases hlone with hvacant | ⟨j, mode, content, hentry, hnode, hone⟩
  · exact .inl ((hsame q hold hnew).trans hvacant)
  · have hother : j ≠ id := fun hid => h.unnamed q hold (hid ▸ hentry)
    refine .inr ⟨j, mode, content, (hsame q hold hnew).trans hentry, (h.nodes j hother).trans hnode, ?_⟩
    intro q' hq'
    by_cases hnew' : q' = new :: p
    · obtain rfl : id = j := by simpa [hnew', FileSystem.moved] using hq'
      exact absurd rfl hother
    · by_cases hold' : q' = old :: p
      · rw [hold'] at hnew' hq'
        simp [FileSystem.moved, hnew'] at hq'
      · exact hone q' ((hsame q' hold' hnew').symm.trans hq')

end FileSystem

namespace Marker

open FileSystem CollectionMarker.Path Procedure

variable {dir other : String} {p q : Location} {k : ℕ} {fs : FileSystem} {c : Collection} {s : Stages}

/-- The mode that a marker gets: that of the staging file if there is one. -/
def shownMode : Option View → ℕ
  | some (.node (.file kept _)) => kept
  | _ => mode

def publishedTree (tree : Location → Option View) (p : Location) (c : Collection) : Location → Option View :=
  Function.update (Function.update tree (stagingName :: p) none) (name :: p)
    (some (.node (.file (shownMode (tree (stagingName :: p))) [c.tag])))

theorem Publication.prepared (h : Publication dir c fs s) (hlone : fs.Lone (stagingName :: s.home)) :
    fs.Prepared (stagingName :: s.home) s.id
      (.file (shownMode (fs.look (stagingName :: s.home))) [c.tag]) s.written := by
  have hopens := h.opens
  obtain ⟨mode', hempty, hwritten⟩ := h.written_eq
  rw [hwritten]
  rcases hlone with hvacant | ⟨id, mode, content, hentry, hnode, hone⟩
  · rw [h.site.openToWrite_vacant hvacant] at hopens
    obtain ⟨hid, hopened⟩ : fs.freshId = s.id ∧ fs.addNode (stagingName :: s.home) (.file mode []) = s.opened := by
      simpa using hopens
    have hlook : fs.look (stagingName :: s.home) = none := look_eq_none_iff.2 hvacant
    obtain rfl : mode = mode' := by simpa [← hopened, ← hid] using hempty
    rw [hlook, ← hopened, ← hid]
    exact (prepared_addNode _ _ _).setNode _
  · rw [h.site.openToWrite_file hentry hnode] at hopens
    obtain ⟨hid, hopened⟩ : id = s.id ∧ fs.setNode id (.file mode []) = s.opened := by
      simpa using hopens
    have hlook : fs.look (stagingName :: s.home) = some (.node (.file mode content)) :=
      look_eq_node_iff.2 ⟨id, hentry, hnode⟩
    obtain rfl : mode = mode' := by simpa [← hopened, ← hid] using hempty
    rw [hlook, ← hopened, ← hid]
    exact (prepared_setNode hentry hone _).setNode _

/-- The staging file is never under the marker's name already, so it is moved there. -/
theorem Publication.shown_eq (h : Publication dir c fs s) (hmissing : fs.Missing (path dir))
    (hlone : fs.Lone (stagingName :: s.home)) : s.shown = s.written.moved s.home stagingName name s.id := by
  have hprepared := h.prepared hlone
  obtain ⟨id, hentry, hcases⟩ := h.shown_cases hmissing
  obtain rfl : s.id = id := by simpa [hprepared.entry] using hentry
  rcases hcases with ⟨hboth, -⟩ | ⟨-, hshown⟩
  · rw [hprepared.entries _ (names_ne _)] at hboth
    exact absurd hboth (hprepared.unnamed _ (names_ne _))
  · exact hshown

theorem Publication.look_shown (h : Publication dir c fs s) (hmissing : fs.Missing (path dir))
    (hlone : fs.Lone (stagingName :: s.home)) : s.shown.look = publishedTree fs.look s.home c := by
  rw [h.shown_eq hmissing hlone]
  exact (h.prepared hlone).look_moved

/-- All other names stand for the same nodes as before. -/
theorem Publication.entryAt?_shown (h : Publication dir c fs s) (hmissing : fs.Missing (path dir))
    (hlone : fs.Lone (stagingName :: s.home)) (hstaging : q ≠ stagingName :: s.home)
    (hname : q ≠ name :: s.home) : s.shown.entryAt? q = fs.entryAt? q := by
  rw [h.shown_eq hmissing hlone, entryAt?_moved hstaging hname]
  exact (h.prepared hlone).entries q hstaging

theorem Publication.lone_shown (h : Publication dir c fs s) (hmissing : fs.Missing (path dir))
    (hlone : fs.Lone (stagingName :: s.home)) (hother : fs.Lone q) (hstaging : q ≠ stagingName :: s.home)
    (hname : q ≠ name :: s.home) : s.shown.Lone q := by
  rw [h.shown_eq hmissing hlone]
  exact (h.prepared hlone).lone_moved hother hstaging hname

/-- Every directory that was found is found as before. -/
theorem Publication.home_shown (h : Publication dir c fs s) (hmissing : fs.Missing (path dir))
    (hhome : fs.Home other q k) : s.shown.Home other q k := by
  have hwritten : s.written.Home other q k := hhome.congr h.staged.routes
  obtain ⟨i, -, ⟨-, hshown⟩ | ⟨-, hshown⟩⟩ := h.shown_cases hmissing
  · rw [hshown]
    exact hwritten
  · rw [hshown]
    exact hwritten.moved (deadEnd_of_walk h.walk_staging (by simp) (by simp)) (h.deadEnd hmissing) i

theorem Publication.address_shown (h : Publication dir c fs s) (hmissing : fs.Missing (path dir))
    (hother : Address other q fs) : Address other q s.shown := by
  obtain ⟨hacc, k, hhome⟩ := exists_home_of_openToRead hother.opens
  exact ⟨(h.home_shown hmissing hhome).openToRead hacc, hother.short⟩

end Marker
end CollectionMarker
