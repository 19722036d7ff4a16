import CollectionMarker.Collection.Refusal
import CollectionMarker.Json.Text

/-! Collections in documents. One collection is its name as a text, or an object whose only member
has that name and the value null. Reading goes from left to right and the first problem wins, so a
wrong name is reported before anything that follows it is looked at.

The releases of the document reader differ in one point, the key of an object that is no text. So the
rule for keys is left open: it is given with the document, and reading is strict where none is given.
What is proved about reading holds under both rules. -/

namespace CollectionMarker.Document

open Json

/-- What a key that is no text comes to. Of the releases of the reader, 1.0.149 is lenient and others
are strict. -/
inductive KeyRule
  /-- The document is malformed. -/
  | strict
  /-- A value stands where a name is wanted, and a message says so. -/
  | lenient
  deriving DecidableEq

def write (c : Collection) : String := "\"" ++ c.name ++ "\""

/-- The name between quotes at the start of a text, the opening quote already read. -/
def readName (cs : List Char) : Except Refusal (Collection × List Char) :=
  match text? cs with
  | none => .error .malformed
  | some (text, rest) => (Collection.ofName (String.ofList text)).map (·, rest)

/-- The value at the start of a text, as far as it takes to name it. -/
def found? (cs : List Char) : Option Found :=
  match cs with
  | '"' :: rest => (text? rest).map fun (text, _) => .text (String.ofList text)
  | '[' :: _ => some .array
  | '\x7b' :: _ => some .object
  | '-' :: rest => .number <$> Number.read? true rest
  | c :: _ =>
    if c.isDigit then .number <$> Number.read? false cs
    else if (afterWord? "null" cs).isSome then some .null
    else if (afterWord? "true" cs).isSome then some (.boolean true)
    else if (afterWord? "false" cs).isSome then some (.boolean false)
    else none
  | [] => none

def refuse (wanted : Wanted) (cs : List Char) : Refusal :=
  match found? cs with
  | some found => .mismatch found wanted
  | none => .malformed

def expect (c : Char) (cs : List Char) : Except Refusal (List Char) :=
  match skipBlanks cs with
  | first :: rest => if first = c then .ok rest else .error .malformed
  | [] => .error .malformed

/-- What follows the start of what is wanted, blanks before it skipped. -/
def expectStart (wanted : Wanted) (cs : List Char) : Except Refusal (List Char) :=
  match afterWord? wanted.start (skipBlanks cs) with
  | some rest => .ok rest
  | none => .error (refuse wanted (skipBlanks cs))

def expectKey : KeyRule → List Char → Except Refusal (List Char)
  | .strict => expect '"'
  | .lenient => expectStart .identifier

/-- The rest of an object that holds a name and a null, its brace already read. -/
def readMember (rule : KeyRule) (cs : List Char) : Except Refusal (Collection × List Char) := do
  let cs ← expectKey rule cs
  let (c, cs) ← readName cs
  let cs ← expect ':' cs
  let cs ← expectStart .unit cs
  let cs ← expect '\x7d' cs
  return (c, cs)

def readOne (rule : KeyRule) (cs : List Char) : Except Refusal (Collection × List Char) :=
  match skipBlanks cs with
  | '"' :: rest => readName rest
  | '\x7b' :: rest => readMember rule rest
  | _ => .error .malformed

def finish {α : Type} : α × List Char → Except Refusal α
  | (a, cs) => if skipBlanks cs = [] then .ok a else .error .malformed

def one (text : String) (rule : KeyRule := .strict) : Except Refusal Collection :=
  readOne rule text.toList >>= finish

def option (text : String) (rule : KeyRule := .strict) : Except Refusal (Option Collection) :=
  match skipBlanks text.toList with
  | 'n' :: rest => match afterWord? "ull" rest with
    | some rest => finish (none, rest)
    | none => .error .malformed
  | _ => some <$> one text rule

end CollectionMarker.Document
