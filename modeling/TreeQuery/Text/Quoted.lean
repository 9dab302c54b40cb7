import TreeQuery.Text.Hidden

set_option autoImplicit false

/-! # Quoted texts in messages

A text is quoted in a message so that every character of it can be seen: quotes and backslashes are
escaped, and a character that does not show is written by its code point. -/

namespace TreeQuery.Text

/-- How a character is written inside a quoted text. -/
def showChar (c : Char) : List Char :=
  if c = '\x00' then ['\\', '0']
  else if c = '\t' then ['\\', 't']
  else if c = '\n' then ['\\', 'n']
  else if c = '\r' then ['\\', 'r']
  else if c = '"' then ['\\', '"']
  else if c = '\\' then ['\\', '\\']
  else if isHidden c then ['\\', 'u', '\x7b'] ++ Nat.toDigits 16 c.toNat ++ ['\x7d']
  else [c]

/-- A text between quotes, with every character of it visible. -/
def quoted (s : String) : String := "\"" ++ String.ofList (s.toList.flatMap showChar) ++ "\""

end TreeQuery.Text
