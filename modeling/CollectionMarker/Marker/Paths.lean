import CollectionMarker.FileSystem.Path

/-! Where a directory's marker stands and what it is made of. All of it is part of the persisted
format. -/

namespace CollectionMarker.Marker

def name : String := "GOQUE"

/-- The name under which a marker is prepared. One that a crash left behind is overwritten. -/
def stagingName : String := "GOQUE.tmp"

def length : Nat := 1

/-- Read by all, written by the owner. -/
def mode : Nat := 0o644

def path (dir : String) : String := Path.join dir name

def stagingPath (dir : String) : String := Path.join dir stagingName

end CollectionMarker.Marker
