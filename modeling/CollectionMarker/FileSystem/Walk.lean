import CollectionMarker.FileSystem.Basic

/-! Following a path. Parts are taken one by one; a link is replaced by the parts of its target, at
most forty times in one walk, whether it stands in the middle or at the end.

The working directory is never removed: a walk starts there without asking for its entry, so the last
name of a walk may be vacant in it. -/

namespace CollectionMarker

inductive Target
  | directory (p : Location)
  | file (id : NodeId)
  | device (which : Device)
  /-- Nothing: the directory is there and has no entry under the last name. -/
  | vacant (p : Location)
  deriving DecidableEq

inductive Purpose
  | find
  /-- To open a file, which is made if the last name has no entry. -/
  | create
  deriving DecidableEq

namespace FileSystem

def linkLimit : Nat := 40

/-- The directory from which a path starts that is met in the directory `p`. -/
def startOf (path : Path) (p : Location) : Location := if path.absolute then [] else p

/-- Follows the parts from the directory `p`; `follow` goes on from a link. A path with a slash at
its end cannot be created, even if something stands there that is no directory. -/
def walkWith (fs : FileSystem) (purpose : Purpose)
    (follow : Location → List Part → Except IoError Target) :
    Location → List Part → Except IoError Target
  | p, [] => .ok (.directory p)
  | p, .here :: rest | p, .slash :: rest => fs.walkWith purpose follow p rest
  | p, .up :: rest => fs.walkWith purpose follow p.tail rest
  | p, .name text :: rest =>
    if purpose = .create ∧ rest = [.slash] then .error (.system .isDirectory)
    else if Path.nameByteLimit < text.utf8ByteSize then .error (.system .nameTooLong)
    else match fs.entryAt? (text :: p) with
      | none => if rest = [] then .ok (.vacant (text :: p)) else .error (.system .noEntry)
      | some (.directory _) => fs.walkWith purpose follow (text :: p) rest
      | some (.node id) => match fs.node id with
        | .link target =>
          let path := Path.parse target
          follow (startOf path p) (path.parts ++ rest)
        | .file _ _ => if rest = [] then .ok (.file id) else .error (.system .notDirectory)
        | .device which => if rest = [] then .ok (.device which) else .error (.system .notDirectory)

def walk (fs : FileSystem) (purpose : Purpose) : Nat → Location → List Part → Except IoError Target
  | 0 => fs.walkWith purpose fun _ _ => .error (.system .tooManyLinksFollowed)
  | links + 1 => fs.walkWith purpose (fs.walk purpose links)

def follow (fs : FileSystem) (purpose : Purpose) (path : Path) (parts : List Part) :
    Except IoError Target :=
  fs.walk purpose linkLimit (startOf path fs.workingDirectory) parts

def resolve (fs : FileSystem) (purpose : Purpose) (text : String) : Except IoError Target := do
  let path ← Path.ofText text
  fs.follow purpose path path.parts

end FileSystem
end CollectionMarker
