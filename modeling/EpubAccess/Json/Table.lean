/-
  EpubAccess.Json.Table
  ────────────────────────────────
  JSON objects whose values are all texts, laid out for people.

  `Table.render` writes one member to a line, indented by two blanks, and an
  empty table as a pair of braces; there is no line end at the end.
  `Table.parse?` reads any JSON object of texts, whatever its layout, and
  gives its members as written.
-/
import EpubAccess.Json.Basic
import EpubAccess.Json.Reader

namespace EpubAccess.Json.Table

/-! ## Writing. -/

/-- One member on a line of its own. -/
def line (member : String × String) : List Char :=
  '\n' :: ' ' :: ' ' :: (quotedChars member.1 ++ ':' :: ' ' :: quotedChars member.2)

/-- The lines of the members, with commas between them. -/
def lines : List (String × String) → List Char
  | [] => []
  | [m] => line m
  | m :: n :: rest => line m ++ ',' :: lines (n :: rest)

/-- The text of a table. -/
def render (members : List (String × String)) : String :=
  match members with
  | [] => "\x7b\x7d"
  | _ => String.ofList ('\x7b' :: (lines members ++ ['\n', '\x7d']))

/-! ## Reading. -/

/-- A member whose value is a text. -/
def member? : List Piece × Outline → Option (String × String)
  | (name, .text pieces) => do
    let name ← text? name
    let value ← text? pieces
    some (name, value)
  | _ => none

/-- The members of an object of texts, as written. -/
def parse? (s : String) : Option (List (String × String)) :=
  match outline? s.toList with
  | some (.object members) => members.mapM member?
  | _ => none

end EpubAccess.Json.Table
