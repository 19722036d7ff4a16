import CollectionMarker.Collection
import CollectionMarker.Json.Number
import CollectionMarker.Text.Quoted

/-! Why a document, a name or an index gives no collection. A text that is no document at all is
only called that; anything else has a message. -/

namespace CollectionMarker

/-- A value met where none of its type is wanted. Arrays and objects are known by their bracket. -/
inductive Found
  | null
  | boolean (value : Bool)
  | number (value : Json.Number)
  | text (value : String)
  | array
  | object
  deriving DecidableEq

inductive Wanted
  /-- A null, which says that the name before it is all there is. -/
  | unit
  /-- A name, as the key of an object. -/
  | identifier
  | sequence
  deriving DecidableEq

/-- What every text of the wanted kind begins with. -/
@[simp]
def Wanted.start : Wanted → String
  | .unit => "null"
  | .identifier => "\""
  | .sequence => "["

inductive Refusal
  /-- No well-formed document, or none of a shape that could hold a collection. -/
  | malformed
  | unknownName (text : String)
  | unknownIndex (index : Nat)
  | mismatch (found : Found) (wanted : Wanted)
  deriving DecidableEq

def Found.describe : Found → String
  | .null => "null"
  | .boolean value => "boolean `" ++ toString value ++ "`"
  | .number (.whole value) => "integer `" ++ toString value ++ "`"
  | .number value => "floating point `" ++ value.text ++ "`"
  | .text value => "string " ++ Text.quoted value
  | .array => "sequence"
  | .object => "map"

def Wanted.describe : Wanted → String
  | .unit => "unit"
  | .identifier => "variant identifier"
  | .sequence => "a sequence"

namespace Refusal

def choices : String :=
  ", ".intercalate (Collection.all.map fun c => "`" ++ c.name ++ "`")

def message? : Refusal → Option String
  | .malformed => none
  | .unknownName text => some ("unknown variant `" ++ text ++ "`, expected one of " ++ choices)
  | .unknownIndex index =>
    some ("invalid value: integer `" ++ toString index ++ "`, expected variant index 0 <= i < " ++
      toString Collection.all.length)
  | .mismatch found wanted =>
    some ("invalid type: " ++ found.describe ++ ", expected " ++ wanted.describe)

end Refusal

namespace Collection

def ofName (text : String) : Except Refusal Collection :=
  match ofName? text with
  | some c => .ok c
  | none => .error (.unknownName text)

def ofIndex (index : Nat) : Except Refusal Collection :=
  match all[index]? with
  | some c => .ok c
  | none => .error (.unknownIndex index)

end Collection
end CollectionMarker
