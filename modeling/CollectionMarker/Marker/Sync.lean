import CollectionMarker.FileSystem.Handle
import CollectionMarker.Marker.Procedure

/-! Making a directory's entries durable. Where syncing does not apply that is logged and no
failure. -/

namespace CollectionMarker

/-- Syncs what the path leads to. A failure to open it is returned as it is. -/
def syncDirectory (dir : String) : Procedure IoError Unit := do
  let handle ← .inspect (·.openToRead dir)
  match ← .attempt (.inspect fun _ => FileSystem.sync handle) with
  | .ok () => return ()
  | .error e => if e.meansUnsupported then .log (.syncUnsupported dir e) else .fail e

end CollectionMarker
