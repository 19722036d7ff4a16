import CollectionMarker.FileSystem.Handle
import CollectionMarker.FileSystem.Names
import CollectionMarker.Marker.Failure
import CollectionMarker.Marker.Paths
import CollectionMarker.Marker.Sync

/-! Opening a data directory for a collection: the first opening records the collection in a marker,
later ones compare with it. The marker is prepared under another name, synced, renamed and made
durable, in this order, so only the rename shows it and it shows it whole. -/

namespace CollectionMarker.Marker

def publish (dir : String) (collection : Collection) : Procedure IoError Unit := do
  let staging ← .request (·.openToWrite (stagingPath dir) mode)
  .change (·.write [collection.tag] staging)
  .inspect fun _ => FileSystem.sync staging
  .change (·.rename (stagingPath dir) (path dir))
  syncDirectory dir

/-- The collection that an open marker stands for. Bytes after the first are not looked at. -/
def decode (marker : Handle) : Procedure Failure Collection := do
  let byte ← (Procedure.inspect (·.firstByte marker)).mapError .io
  .done (Collection.ofTag byte)

/-- The collection recorded for a directory, if it has a marker. Nothing is made. -/
def recorded (dir : String) : Procedure Failure (Option Collection) := do
  match ← .attempt (.inspect (·.openToRead (path dir))) with
  | .ok marker => some <$> decode marker
  | .error e => if e.kind = .notFound then return none else .fail (.io e)

/-- The collection that a directory belongs to: the recorded one, or else the requested one, which
is recorded now. -/
def settle (dir : String) (requested : Collection) : Procedure Failure Collection := do
  match ← .attempt (.inspect (·.openToRead (path dir))) with
  | .ok marker =>
    let stored ← decode marker
    .log (.checked dir stored requested)
    return stored
  | .error e =>
    if e.kind = .notFound then
      (publish dir requested).mapError .io
      .log (.tagged dir requested)
      return requested
    else .fail (.io e)

def admits (dir : String) (requested : Collection) : Procedure Failure Bool := do
  let stored ← settle dir requested
  return stored.compatible requested

/-- A directory may be opened for a collection; if not, that is a failure which names the one it
belongs to. -/
def require (dir : String) (requested : Collection) : Procedure Failure Unit := do
  let stored ← settle dir requested
  if stored.compatible requested then return () else .fail (.incompatible stored requested)

end CollectionMarker.Marker
