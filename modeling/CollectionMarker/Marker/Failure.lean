import CollectionMarker.Collection
import CollectionMarker.Text.Hex
import CollectionMarker.FileSystem.IoError

/-! Why a directory cannot be opened for a collection. -/

namespace CollectionMarker

inductive Failure
  /-- The file system refused, with its error unchanged. -/
  | io (error : IoError)
  /-- The marker holds a byte that stands for no collection. -/
  | unknownTag (byte : UInt8)
  /-- The directory belongs to a collection with another key layout. -/
  | incompatible (stored requested : Collection)
  deriving DecidableEq

namespace Failure

def message : Failure → String
  | .io error => "I/O error: " ++ error.message
  | .unknownTag byte => "unrecognized collection type marker byte 0x" ++ Hex.encode [byte]
  | .incompatible stored requested =>
    "data directory was created as " ++ stored.name ++ ", cannot be opened as " ++ requested.name

def io? : Failure → Option IoError
  | .io error => some error
  | _ => none

/-- The failure in the form of a diagnostic. An error of the file system has none of its own. -/
def diagnostic? : Failure → Option String
  | .io _ => none
  | .unknownTag byte => some ("UnknownMarker(" ++ toString byte.toNat ++ ")")
  | .incompatible stored requested =>
    some ("Incompatible \x7b stored: " ++ stored.title ++ ", requested: " ++ requested.title ++ " \x7d")

end Failure

def Collection.ofTag (byte : UInt8) : Except Failure Collection :=
  match ofTag? byte with
  | some c => .ok c
  | none => .error (.unknownTag byte)

end CollectionMarker
