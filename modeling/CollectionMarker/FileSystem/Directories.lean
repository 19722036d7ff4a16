import CollectionMarker.FileSystem.Names

/-! Making directories with those around them, and removing them with all below. Both are several
requests, so a failure can leave some of the work done. The working directory is not among those that
are removed. -/

namespace CollectionMarker.FileSystem

/-- What several requests come to: whether all went well, and the state after the last one. -/
abbrev Attempt := Except IoError Unit × FileSystem

def makeDirectory (fs : FileSystem) (path : Path) : Except IoError FileSystem := do
  let place ← fs.slot path
  match place.name? with
  | none => .error (.system .alreadyExists)
  | some name => match ← fs.child place.dir name with
    | some _ => .error (.system .alreadyExists)
    | none => .ok (fs.setEntry (name :: place.dir) (.directory 0o777))

def ensureDirectory (fs : FileSystem) (path : Path) : Attempt :=
  match fs.makeDirectory path with
  | .ok made => (.ok (), made)
  | .error e => match fs.directoryAt path path.parts with
    | .ok _ => (.ok (), fs)
    | .error _ => (.error e, fs)

/-- Makes one directory after those around it, which `outer` makes, if they are what is missing. -/
def ensureInside (fs : FileSystem) (path : Path) (outer : Unit → Attempt) : Attempt :=
  match fs.ensureDirectory path with
  | (.error e, _) =>
    if e.kind = .notFound then
      match outer () with
      | (.ok (), made) => made.ensureDirectory path
      | failed => failed
    else (.error e, fs)
  | made => made

/-- Makes the directories that parts lead through, given from the last part backwards. -/
def ensureDirectories (fs : FileSystem) (absolute : Bool) : List Part → Attempt
  | [] => (.ok (), fs)
  | last :: outer =>
    fs.ensureInside ⟨absolute, (last :: outer).reverse⟩ fun _ => fs.ensureDirectories absolute outer

/-- Makes a directory and those around it. The empty path names nothing to make. -/
def makeDirectories (fs : FileSystem) (text : String) : Attempt :=
  if text.isEmpty then (.ok (), fs)
  else match Path.ofText text with
    | .error e => (.error e, fs)
    | .ok path =>
      let named := path.parts.filter fun part => part ≠ .here ∧ part ≠ .slash
      fs.ensureInside path fun _ => fs.ensureDirectories path.absolute named.dropLast.reverse

def removeDirectory (fs : FileSystem) (path : Path) : Except IoError FileSystem := do
  let place ← fs.slot path
  match place.last? with
  | some (.name name) => match ← fs.child place.dir name with
    | none => .error (.system .noEntry)
    | some (.node _) => .error (.system .notDirectory)
    | some (.directory _) =>
      if fs.isEmptyDirectory (name :: place.dir) then .ok (fs.eraseEntry (name :: place.dir))
      else .error (.system .notEmpty)
  | some .here => .error (.system .invalidArgument)
  | some _ => .error (.system .notEmpty)
  | none => .error (.system .busy)

def emptyDirectory (fs : FileSystem) (p : Location) : FileSystem :=
  { fs with entries := fs.entries.restrict fun q => !(decide (p <:+ q)) || q == p }

def clearAway (fs : FileSystem) (path : Path) : Attempt :=
  match fs.directoryAt path path.parts with
  | .error e => (.error e, fs)
  | .ok p =>
    let emptied := fs.emptyDirectory p
    match emptied.removeDirectory path with
    | .ok removed => (.ok (), removed)
    | .error e => (.error e, emptied)

/-- Takes away a directory and all below it, or a link in its place. -/
def removeTree (fs : FileSystem) (text : String) : Attempt :=
  let found : Except IoError (Path × Option Location) := do
    let path ← Path.ofText text
    let place ← fs.slot path
    match place.name?, place.closed with
    | some name, false => match ← fs.child place.dir name with
      | none => .error (.system .noEntry)
      | some (.directory _) => .ok (path, none)
      | some (.node id) => match fs.node id with
        | .link _ => .ok (path, some (name :: place.dir))
        | _ => .error (.system .notDirectory)
    | _, _ => .ok (path, none)
  match found with
  | .error e => (.error e, fs)
  | .ok (_, some link) => (.ok (), fs.eraseEntry link)
  | .ok (path, none) => fs.clearAway path

end CollectionMarker.FileSystem
