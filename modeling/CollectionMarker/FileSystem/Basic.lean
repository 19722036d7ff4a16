import CollectionMarker.FileSystem.Table
import CollectionMarker.FileSystem.Path

/-! The state of a file system as a value. A directory entry is a directory or names a node; two
entries that name one node are hard links of each other. Links and devices are nodes as well, so
they can be hard linked too. -/

namespace CollectionMarker

/-- Where an entry stands: its name, then the names of the directories around it from the inside
outwards. The root is the empty list. -/
abbrev Location := List String

abbrev NodeId := Nat

inductive Device
  /-- Reads as empty and takes every write. -/
  | null
  /-- Reads as zeros and refuses every write. -/
  | full
  /-- Reads as zeros and takes every write. -/
  | zero
  deriving DecidableEq

/-- What a name that is no directory stands for. -/
inductive Node
  | file (mode : Nat) (content : List UInt8)
  | link (target : String)
  | device (which : Device)
  deriving DecidableEq

inductive Entry
  | directory (mode : Nat)
  | node (id : NodeId)
  deriving DecidableEq

/-- All entries, all nodes, and the directory that relative paths start from. -/
structure FileSystem where
  entries : Table Location Entry := {}
  nodes : Table NodeId Node := {}
  workingDirectory : Location := []
  deriving DecidableEq

inductive View
  | directory (mode : Nat)
  | node (content : Node)
  deriving DecidableEq

namespace FileSystem

def entryAt? (fs : FileSystem) (p : Location) : Option Entry := fs.entries.get? p

/-- The node of that name. A name without a node reads as an empty file. -/
def node (fs : FileSystem) (id : NodeId) : Node := (fs.nodes.get? id).getD (.file 0 [])

def look (fs : FileSystem) (p : Location) : Option View :=
  (fs.entryAt? p).map fun
    | .directory mode => .directory mode
    | .node id => .node (fs.node id)

def setEntry (fs : FileSystem) (p : Location) (e : Entry) : FileSystem :=
  { fs with entries := fs.entries.set p e }

def eraseEntry (fs : FileSystem) (p : Location) : FileSystem :=
  { fs with entries := fs.entries.erase p }

def setNode (fs : FileSystem) (id : NodeId) (n : Node) : FileSystem :=
  { fs with nodes := fs.nodes.set id n }

def freshId (fs : FileSystem) : NodeId :=
  fs.entries.rows.foldr (fun (_, e) bound =>
    match e with
    | .directory _ => bound
    | .node id => max (id + 1) bound) 0

def addNode (fs : FileSystem) (p : Location) (n : Node) : FileSystem :=
  (fs.setEntry p (.node fs.freshId)).setNode fs.freshId n

/-- The three devices under `/dev`, and an empty working directory, which like every directory
made on request has all permissions. -/
def initial : FileSystem :=
  let bare : FileSystem := { workingDirectory := ["work"] }
  [(["null", "dev"], Device.null), (["full", "dev"], .full), (["zero", "dev"], .zero)].foldl
    (fun fs (p, d) => fs.addNode p (.device d))
    (((bare.setEntry [] (.directory 0o755)).setEntry ["dev"] (.directory 0o755)).setEntry ["work"]
      (.directory 0o777))

@[simp] theorem entryAt?_setEntry (fs : FileSystem) (p q : Location) (e : Entry) :
    (fs.setEntry p e).entryAt? q = if q = p then some e else fs.entryAt? q :=
  Table.get?_set ..

@[simp] theorem entryAt?_eraseEntry (fs : FileSystem) (p q : Location) :
    (fs.eraseEntry p).entryAt? q = if q = p then none else fs.entryAt? q :=
  Table.get?_erase ..

@[simp] theorem entryAt?_setNode (fs : FileSystem) (id : NodeId) (n : Node) (q : Location) :
    (fs.setNode id n).entryAt? q = fs.entryAt? q := rfl

@[simp] theorem node_setNode (fs : FileSystem) (id j : NodeId) (n : Node) :
    (fs.setNode id n).node j = if j = id then n else fs.node j := by
  simp only [node, setNode, Table.get?_set]
  split <;> rfl

/-- Only the last value of a node counts. -/
@[simp] theorem setNode_setNode (fs : FileSystem) (id : NodeId) (n m : Node) :
    (fs.setNode id n).setNode id m = fs.setNode id m := by
  simp only [setNode, Table.set_set]

@[simp] theorem node_setEntry (fs : FileSystem) (p : Location) (e : Entry) (j : NodeId) :
    (fs.setEntry p e).node j = fs.node j := rfl

@[simp] theorem node_eraseEntry (fs : FileSystem) (p : Location) (j : NodeId) :
    (fs.eraseEntry p).node j = fs.node j := rfl

theorem look_eq_none_iff {fs : FileSystem} {p : Location} : fs.look p = none ↔ fs.entryAt? p = none := by
  simp [look]

theorem look_eq_node_iff {fs : FileSystem} {p : Location} {n : Node} :
    fs.look p = some (.node n) ↔ ∃ id, fs.entryAt? p = some (.node id) ∧ fs.node id = n := by
  unfold look
  cases fs.entryAt? p with
  | none => simp
  | some entry => cases entry <;> simp

end FileSystem
end CollectionMarker
