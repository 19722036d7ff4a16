import CollectionMarker.FileSystem.Walk

/-! Permission modes, looked up and set through links. Devices are open to all. -/

namespace CollectionMarker

namespace Mode

def octal (mode : Nat) : String :=
  String.ofList ([mode / 64 % 8, mode / 8 % 8, mode % 8].map Nat.digitChar)

def ofOctal? (text : String) : Option Nat :=
  text.toList.foldlM (fun mode c => if '0' ≤ c ∧ c ≤ '7' then some (8 * mode + (c.toNat - '0'.toNat)) else none) 0

end Mode

namespace FileSystem

def setMode (fs : FileSystem) (text : String) (mode : Nat) : Except IoError FileSystem := do
  match ← fs.resolve .find text with
  | .directory p => .ok (fs.setEntry p (.directory mode))
  | .file id => match fs.node id with
    | .file _ content => .ok (fs.setNode id (.file mode content))
    | _ => .ok fs
  | .device _ => .ok fs
  | .vacant _ => .error (.system .noEntry)

def mode (fs : FileSystem) (text : String) : Except IoError Nat := do
  match ← fs.resolve .find text with
  | .directory p => match fs.entryAt? p with
    | some (.directory mode) => .ok mode
    | _ => .ok 0
  | .file id => match fs.node id with
    | .file mode _ => .ok mode
    | _ => .ok 0
  | .device _ => .ok 0o666
  | .vacant _ => .error (.system .noEntry)

end FileSystem
end CollectionMarker
