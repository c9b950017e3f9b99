import CallbackWeave.Text.Property

/-!
A text in double quotes as diagnostics show it: quotes and backslashes are escaped, line ends and
tabs have their letters, and every character without a shape of its own is given by number.
-/

namespace CallbackWeave.Text

/-- The digits of a number in base sixteen, in small letters and without leading zeros. -/
def hexadecimal (n : Nat) : String := String.ofList (Nat.toDigits 16 n)

/-- One character as it stands inside double quotes. -/
def quotedChar (c : Char) : String :=
  if c = '"' then "\\\""
  else if c = '\\' then "\\\\"
  else if c = '\n' then "\\n"
  else if c = '\r' then "\\r"
  else if c = '\t' then "\\t"
  else if c = '\x00' then "\\0"
  else if isPrintable c then String.singleton c
  else "\\u\x7b" ++ hexadecimal c.toNat ++ "\x7d"

/-- A text in double quotes. -/
def quoted (s : String) : String :=
  "\"" ++ String.join (s.toList.map quotedChar) ++ "\""

end CallbackWeave.Text
