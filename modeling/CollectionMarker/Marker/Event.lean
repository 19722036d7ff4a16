import CollectionMarker.Collection
import CollectionMarker.Text.Quoted
import CollectionMarker.FileSystem.IoError

/-! What is logged while directories are opened. A message fills one line. -/

namespace CollectionMarker

inductive Severity
  | info
  | debug
  deriving DecidableEq

inductive Event
  /-- A directory without a marker has one now. -/
  | tagged (dir : String) (stored : Collection)
  /-- A marker was read. -/
  | checked (dir : String) (stored requested : Collection)
  /-- The directory's entries cannot be synced here. -/
  | syncUnsupported (dir : String) (reason : IoError)
  deriving DecidableEq

namespace Event

def severity : Event → Severity
  | .tagged .. => .info
  | .checked .. | .syncUnsupported .. => .debug

def message : Event → String
  | .tagged dir stored => "Tagged data directory " ++ Text.quoted dir ++ " as " ++ stored.name
  | .checked dir stored requested =>
    "Data directory " ++ Text.quoted dir ++ " is tagged " ++ stored.name ++ ", requested " ++ requested.name
  | .syncUnsupported dir reason =>
    "Directory sync unsupported for " ++ Text.quoted dir ++ ": " ++ reason.message

end Event
end CollectionMarker
