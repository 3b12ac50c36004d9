/-
  EpubAccess.Text.Quoted
  ────────────────────────────────
  Texts shown inside messages: between double quotes, on one line, with every
  character that could not be seen written as an escape.

  NUL, tab, line feed, carriage return, the double quote and the backslash
  have short escapes.  A character that is unprintable or that would combine
  with the one before it is written by its number.  All others stand for
  themselves.
-/
import EpubAccess.Text.Number
import EpubAccess.Text.Unprintable
import EpubAccess.Text.Combining

namespace EpubAccess.Text.Quoted

/-- A character written by its number in hexadecimal. -/
def byNumber (c : Char) : String :=
  "\\u\x7b" ++ Hex.lower c.toNat ++ "\x7d"

/-- One character as it stands between the quotes. -/
def shown (c : Char) : String :=
  if c = '\x00' then "\\0"
  else if c = '\t' then "\\t"
  else if c = '\n' then "\\n"
  else if c = '\r' then "\\r"
  else if c = '"' then "\\\""
  else if c = '\\' then "\\\\"
  else if isCombining c || isUnprintable c then byNumber c
  else c.toString

/-- The whole text between quotes. -/
def quote (s : String) : String :=
  "\"" ++ String.join (s.toList.map shown) ++ "\""

end EpubAccess.Text.Quoted
