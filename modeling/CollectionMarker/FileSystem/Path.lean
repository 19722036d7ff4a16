import CollectionMarker.FileSystem.IoError

/-! Path texts: how one is read into parts, which ones never reach a look-up, and how a name is
put under a directory. Nothing is normalised: what `..` means depends on links. -/

namespace CollectionMarker

inductive Part
  /-- A single dot. -/
  | here
  /-- Two dots. -/
  | up
  | name (text : String)
  /-- Slashes after the last part: it has to be a directory. -/
  | slash
  deriving DecidableEq

def Part.ofSegment? : List Char → Option Part
  | [] => none
  | ['.'] => some .here
  | ['.', '.'] => some .up
  | segment => some (.name (String.ofList segment))

structure Path where
  absolute : Bool
  parts : List Part
  deriving DecidableEq

namespace Path

def byteLimit : Nat := 4096

def nameByteLimit : Nat := 255

def steps (text : String) : List Part :=
  (text.toList.splitOn '/').filterMap Part.ofSegment?

/-- The text ends in a slash that follows a part. -/
def endsOpen (text : String) : Bool :=
  text.toList.getLast? == some '/' && !(steps text).isEmpty

def parse (text : String) : Path where
  absolute := text.toList.head? == some '/'
  parts := if endsOpen text then steps text ++ [.slash] else steps text

/-- The system would read a text only up to its first NUL, so such a text is never passed on. -/
def checkNul (text : String) : Except IoError Unit :=
  if '\x00' ∈ text.toList then .error .nulInPath else .ok ()

def ofText (text : String) : Except IoError Path := do
  checkNul text
  if text.isEmpty then .error (.system .noEntry)
  else if byteLimit ≤ text.utf8ByteSize then .error (.system .nameTooLong)
  else .ok (parse text)

/-- The path of `name` in the directory `dir`: one slash between them unless `dir` is empty or
ends in one. -/
def join (dir name : String) : String :=
  match dir.toList.getLast? with
  | none | some '/' => dir ++ name
  | some _ => dir ++ "/" ++ name

end Path
end CollectionMarker
