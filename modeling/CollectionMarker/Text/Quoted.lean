import CollectionMarker.Text.Visible

/-! The quoted form of a text in messages: between double quotes, on one line, with a backslash
before whatever would break out of the quotes and a number for whatever cannot be seen. -/

namespace CollectionMarker.Text

/-- The number of a character that cannot be shown, in braces. -/
def numbered (c : Char) : List Char :=
  ['\\', 'u', '\x7b'] ++ Nat.toDigits 16 c.toNat ++ ['\x7d']

/-- A character inside the quotes. An apostrophe stays as it is. -/
def escaped (c : Char) : List Char :=
  if c = '"' ∨ c = '\\' then ['\\', c]
  else if c = '\n' then ['\\', 'n']
  else if c = '\t' then ['\\', 't']
  else if c = '\r' then ['\\', 'r']
  else if c = '\x00' then ['\\', '0']
  else if isVisible c then [c]
  else numbered c

def quoted (text : String) : String :=
  String.ofList ('"' :: text.toList.flatMap escaped ++ ['"'])

end CollectionMarker.Text
