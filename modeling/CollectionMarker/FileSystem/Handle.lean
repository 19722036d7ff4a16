import CollectionMarker.FileSystem.Walk

/-! Opening, reading, writing and syncing. A handle stays with the node it was opened on, whatever
happens to the names. Writing and syncing a regular file never fail, and devices have nothing to sync.
A file can always be made where a name is vacant, since the working directory is never removed. -/

namespace CollectionMarker

inductive Handle
  | directory (p : Location)
  | file (id : NodeId)
  | device (which : Device)
  deriving DecidableEq

namespace FileSystem

/-- Opens what is there. A directory may be opened too, though it cannot be read. -/
def openToRead (fs : FileSystem) (text : String) : Except IoError Handle := do
  match ← fs.resolve .find text with
  | .directory p => .ok (.directory p)
  | .file id => .ok (.file id)
  | .device which => .ok (.device which)
  | .vacant _ => .error (.system .noEntry)

def truncate (fs : FileSystem) (id : NodeId) : FileSystem :=
  match fs.node id with
  | .file mode _ => fs.setNode id (.file mode [])
  | _ => fs

/-- Opens an empty file: the one that is there, emptied, or a new one with that mode. -/
def openToWrite (fs : FileSystem) (text : String) (mode : Nat) : Except IoError (Handle × FileSystem) := do
  match ← fs.resolve .create text with
  | .directory _ => .error (.system .isDirectory)
  | .file id => .ok (.file id, fs.truncate id)
  | .device which => .ok (.device which, fs)
  | .vacant p => .ok (.file fs.freshId, fs.addNode p (.file mode []))

def firstByte (fs : FileSystem) : Handle → Except IoError UInt8
  | .directory _ => .error (.system .isDirectory)
  | .device .null => .error .endOfFile
  | .device .full | .device .zero => .ok 0
  | .file id => match fs.node id with
    | .file _ (byte :: _) => .ok byte
    | _ => .error .endOfFile

/-- Writes from the start. A full device takes only an empty write. -/
def write (fs : FileSystem) (bytes : List UInt8) : Handle → Except IoError FileSystem
  | .directory _ => .error (.system .isDirectory)
  | .device .full => if bytes = [] then .ok fs else .error (.system .noSpace)
  | .device .null | .device .zero => .ok fs
  | .file id => match fs.node id with
    | .file mode content => .ok (fs.setNode id (.file mode (bytes ++ content.drop bytes.length)))
    | _ => .ok fs

def writeFile (fs : FileSystem) (text : String) (bytes : List UInt8) : Except IoError FileSystem := do
  let (handle, opened) ← fs.openToWrite text 0o666
  opened.write bytes handle

def sync : Handle → Except IoError Unit
  | .device _ => .error (.system .invalidArgument)
  | .directory _ | .file _ => .ok ()

end FileSystem
end CollectionMarker
