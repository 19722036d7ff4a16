import CollectionMarker.FileSystem.Errno

/-! Why a file system request fails: the system refuses it, or it fails without the system saying
so. Every error has one kind, and whether a failure to sync matters is read off the kind alone. -/

namespace CollectionMarker

inductive IoError
  /-- The system refused it. -/
  | system (reason : Errno)
  /-- The path holds a NUL, so it was never passed to the system. -/
  | nulInPath
  /-- The file ended before all requested bytes were read. -/
  | endOfFile
  /-- Reported from elsewhere with a kind and a text. -/
  | reported (kind : ErrorKind) (text : String)
  deriving DecidableEq

namespace IoError

def kind : IoError → ErrorKind
  | .system reason => reason.kind
  | .nulInPath => .invalidInput
  | .endOfFile => .unexpectedEof
  | .reported kind _ => kind

def message : IoError → String
  | .system reason => reason.text ++ " (os error " ++ toString reason.number ++ ")"
  | .nulInPath => "file name contained an unexpected NUL byte"
  | .endOfFile => "failed to fill whole buffer"
  | .reported _ text => text

/-- A failure to sync that only says that syncing does not apply here. -/
def meansUnsupported (e : IoError) : Bool :=
  e.kind == .invalidInput || e.kind == .unsupported

end IoError
end CollectionMarker
