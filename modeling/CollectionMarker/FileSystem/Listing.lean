import CollectionMarker.FileSystem.Basic

/-! All that stands below a directory, in the order of the path texts by code points. -/

namespace CollectionMarker.FileSystem

def relativeText (p q : Location) : String :=
  "/".intercalate (q.take (q.length - p.length)).reverse

/-- Every location below `p` with what can be seen there. Links are not followed. -/
def listing (fs : FileSystem) (p : Location) : List (String × View) :=
  let below := fs.entries.rows.filterMap fun (q, _) =>
    if p <:+ q ∧ q ≠ p then (fs.look q).map (relativeText p q, ·) else none
  below.mergeSort fun a b => decide (a.1 ≤ b.1)

end CollectionMarker.FileSystem
