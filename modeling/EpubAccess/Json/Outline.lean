/-
  EpubAccess.Json.Outline
  ────────────────────────────────
  The structure of a JSON document, before its numbers and texts are read.

  `outline?` recognises the grammar with a stack of open brackets, one token
  at a time, so nesting costs nothing and has no limit here.  Members keep
  their order and repeated names stay.
-/
import EpubAccess.Json.Token

namespace EpubAccess.Json

/-- A document whose numbers and texts are as written. -/
inductive Outline where
  | null
  | bool (b : Bool)
  | number (n : Numeral)
  | text (pieces : List Piece)
  | array (items : List Outline)
  | object (members : List (List Piece × Outline))
  deriving Inhabited

namespace Outline

/-- An open bracket with what is complete inside it, last first. -/
inductive Frame where
  | array (done : List Outline)
  | object (done : List (List Piece × Outline))
  /-- An object whose next member has its name already. -/
  | member (done : List (List Piece × Outline)) (name : List Piece)
  deriving Inhabited

/-- What may come next. -/
inductive Want where
  /-- A value. -/
  | value
  /-- A value, or the end of an array that is empty so far. -/
  | item
  /-- A name. -/
  | name
  /-- A name, or the end of an object that is empty so far. -/
  | firstName
  /-- The colon after a name. -/
  | colon
  /-- A comma or a closing bracket. -/
  | more
  /-- Nothing: the document is complete. -/
  | nothing (result : Outline)
  deriving Inhabited

/-- The open brackets, innermost first, and what may come next. -/
structure Builder where
  frames : List Frame
  want : Want
  deriving Inhabited

namespace Builder

/-- Before the first token. -/
def start : Builder := ⟨[], .value⟩

/-- A value is complete. -/
def close (frames : List Frame) (v : Outline) : Option Builder :=
  match frames with
  | [] => some ⟨[], .nothing v⟩
  | .array done :: rest => some ⟨.array (v :: done) :: rest, .more⟩
  | .member done name :: rest => some ⟨.object ((name, v) :: done) :: rest, .more⟩
  | .object _ :: _ => none

/-- A token where a value is due. -/
def value (frames : List Frame) : Token → Option Builder
  | .null => close frames .null
  | .bool b => close frames (.bool b)
  | .number n => close frames (.number n)
  | .text pieces => close frames (.text pieces)
  | .openArray => some ⟨.array [] :: frames, .item⟩
  | .openObject => some ⟨.object [] :: frames, .firstName⟩
  | _ => none

/-- A token where a name is due. -/
def name (frames : List Frame) (t : Token) : Option Builder :=
  match t, frames with
  | .text pieces, .object done :: rest => some ⟨.member done pieces :: rest, .colon⟩
  | _, _ => none

/-- A token after a complete item or member. -/
def more (frames : List Frame) (t : Token) : Option Builder :=
  match t, frames with
  | .comma, .array _ :: _ => some ⟨frames, .value⟩
  | .comma, .object _ :: _ => some ⟨frames, .name⟩
  | .closeArray, .array done :: rest => close rest (.array done.reverse)
  | .closeObject, .object done :: rest => close rest (.object done.reverse)
  | _, _ => none

/-- One more token. -/
def step (b : Builder) (t : Token) : Option Builder :=
  match b.want with
  | .value => value b.frames t
  | .item => if t = .closeArray then more b.frames t else value b.frames t
  | .name => name b.frames t
  | .firstName => if t = .closeObject then more b.frames t else name b.frames t
  | .colon => if t = .colon then some ⟨b.frames, .value⟩ else none
  | .more => more b.frames t
  | .nothing _ => none

/-- The end of the tokens. -/
def finish (b : Builder) : Option Outline :=
  match b.want with
  | .nothing v => some v
  | _ => none

end Builder

end Outline

/-- The document that a text spells out, if it is one. -/
def outline? (cs : List Char) : Option Outline :=
  (tokens? cs).bind fun ts =>
    (ts.foldlM Outline.Builder.step Outline.Builder.start).bind Outline.Builder.finish

end EpubAccess.Json
