import CallbackWeave.Text.Quoted

/-!
JSON as it is written: no space between the parts of a text, and in strings only those characters
escaped that have to be.
-/

namespace CallbackWeave.Json

/-- One character as it stands in a string. -/
def writeChar (c : Char) : List Char :=
  if c = '"' then ['\\', '"']
  else if c = '\\' then ['\\', '\\']
  else if c = '\x08' then ['\\', 'b']
  else if c = '\x0C' then ['\\', 'f']
  else if c = '\n' then ['\\', 'n']
  else if c = '\r' then ['\\', 'r']
  else if c = '\t' then ['\\', 't']
  else if c.toNat < 0x10 then ['\\', 'u', '0', '0', '0'] ++ Nat.toDigits 16 c.toNat
  else if c.toNat < 0x20 then ['\\', 'u', '0', '0'] ++ Nat.toDigits 16 c.toNat
  else [c]

/-- A string. -/
def writeString (s : String) : List Char := '"' :: s.toList.flatMap writeChar ++ ['"']

/-- A list of values that are already written. -/
def writeList (values : List (List Char)) : List Char :=
  '[' :: List.intercalate [','] values ++ [']']

/-- An object of keys and values that are already written. -/
def writeObject (members : List (String × List Char)) : List Char :=
  let member (m : String × List Char) : List Char := writeString m.1 ++ ':' :: m.2
  '{' :: List.intercalate [','] (members.map member) ++ ['}']

end CallbackWeave.Json
