import CollectionMarker.FileSystem.Walk

/-! Requests about names: links, renaming and removal. The last name of a path is taken as it stands;
a link under it is not followed. -/

namespace CollectionMarker

/-- The place that a path names: the directory around it and the last part, which only the root's path
is without. -/
structure Slot where
  dir : Location
  last? : Option Part
  /-- Slashes follow the last part. -/
  closed : Bool
  deriving DecidableEq

/-- The name of the place, unless the path ends in dots. -/
def Slot.name? (place : Slot) : Option String :=
  match place.last? with
  | some (.name text) => some text
  | _ => none

namespace FileSystem

def directoryAt (fs : FileSystem) (path : Path) (parts : List Part) : Except IoError Location := do
  match ← fs.follow .find path parts with
  | .directory p => .ok p
  | .vacant _ => .error (.system .noEntry)
  | _ => .error (.system .notDirectory)

def slot (fs : FileSystem) (path : Path) : Except IoError Slot := do
  let closed := path.parts.getLast? == some .slash
  let steps := if closed then path.parts.dropLast else path.parts
  let dir ← fs.directoryAt path steps.dropLast
  return ⟨dir, steps.getLast?, closed⟩

def child (fs : FileSystem) (dir : Location) (text : String) : Except IoError (Option Entry) :=
  if Path.nameByteLimit < text.utf8ByteSize then .error (.system .nameTooLong)
  else .ok (fs.entryAt? (text :: dir))

def freeSlot (fs : FileSystem) (path : Path) : Except IoError Location := do
  let place ← fs.slot path
  match place.name? with
  | none => .error (.system .alreadyExists)
  | some text => match ← fs.child place.dir text with
    | some _ => .error (.system .alreadyExists)
    | none => if place.closed then .error (.system .noEntry) else .ok (text :: place.dir)

/-- The new location of what stands at or below `source` once that has become `target`. -/
def relocated (source target p : Location) : Location :=
  if source <:+ p then p.take (p.length - source.length) ++ target else p

def moveDirectory (fs : FileSystem) (source target : Location) : FileSystem :=
  { (fs.eraseEntry target) with
    entries := (fs.entries.erase target).mapKeys (relocated source target)
    workingDirectory := relocated source target fs.workingDirectory }

def isEmptyDirectory (fs : FileSystem) (p : Location) : Bool :=
  fs.entries.rows.all fun (q, _) => !(decide (p <:+ q)) || q == p

/-- Gives an entry another name. What had that name is replaced, except that two names of one node
stay as they are. -/
def rename (fs : FileSystem) (source target : String) : Except IoError FileSystem := do
  Path.checkNul source
  Path.checkNul target
  let place ← fs.slot (← Path.ofText source)
  let goal ← fs.slot (← Path.ofText target)
  match place.name?, goal.name? with
  | some old, some new =>
    let p := old :: place.dir
    let q := new :: goal.dir
    let some moved ← fs.child place.dir old | .error (.system .noEntry)
    let replaced ← fs.child goal.dir new
    match moved with
    | .node id =>
      if place.closed || goal.closed then .error (.system .notDirectory)
      else if q <:+ place.dir then .error (.system .notEmpty)
      else match replaced with
        | some (.directory _) => .error (.system .isDirectory)
        | some (.node other) =>
          if other = id then .ok fs else .ok ((fs.eraseEntry p).setEntry q (.node id))
        | none => .ok ((fs.eraseEntry p).setEntry q (.node id))
    | .directory _ =>
      if p <:+ goal.dir then .error (.system .invalidArgument)
      else if q <:+ place.dir then .error (.system .notEmpty)
      else if p = q then .ok fs
      else match replaced with
        | some (.node _) => .error (.system .notDirectory)
        | some (.directory _) =>
          if fs.isEmptyDirectory q then .ok (fs.moveDirectory p q) else .error (.system .notEmpty)
        | none => .ok (fs.moveDirectory p q)
  | _, _ => .error (.system .busy)

def remove (fs : FileSystem) (text : String) : Except IoError FileSystem := do
  let place ← fs.slot (← Path.ofText text)
  match place.name? with
  | none => .error (.system .isDirectory)
  | some name => match ← fs.child place.dir name with
    | none => .error (.system .noEntry)
    | some (.directory _) => .error (.system .isDirectory)
    | some (.node _) =>
      if place.closed then .error (.system .notDirectory)
      else .ok (fs.eraseEntry (name :: place.dir))

/-- Makes a link with that target, which is not looked at. -/
def makeLink (fs : FileSystem) (target text : String) : Except IoError FileSystem := do
  Path.checkNul target
  Path.checkNul text
  let _ ← Path.ofText target
  return fs.addNode (← fs.freeSlot (← Path.ofText text)) (.link target)

/-- Makes a second name for a node. A link is linked itself, not what it leads to. -/
def makeHardLink (fs : FileSystem) (source text : String) : Except IoError FileSystem := do
  Path.checkNul source
  Path.checkNul text
  let sourcePath ← Path.ofText source
  let place ← fs.slot sourcePath
  let linked : Entry ← match place.name?, place.closed with
    | some name, false => match ← fs.child place.dir name with
      | some e => .ok e
      | none => .error (.system .noEntry)
    | _, _ => (fs.directoryAt sourcePath sourcePath.parts).map fun _ => .directory 0
  let p ← fs.freeSlot (← Path.ofText text)
  match linked with
  | .directory _ => .error (.system .notPermitted)
  | .node id => .ok (fs.setEntry p (.node id))

end FileSystem
end CollectionMarker
