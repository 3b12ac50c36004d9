/-
  EpubAccess.Config
  ────────────────────────────────
  The settings of the library.

  Settings come from named variables (`ofVariables`) or from a JSON document
  (`ofJson?`).  A variable that is not set leaves the default; a size has to
  be positive and is reported by the name of its variable, the buffer size
  first.  A document is an object, in which unknown names do not count and no
  setting may stand twice, or an array with the settings in their order, of
  which the last ones may be missing.
-/
import EpubAccess.Error
import EpubAccess.Json.Reader
import EpubAccess.Text.Blank
import EpubAccess.Text.Quoted
import EpubAccess.Text.Number

namespace EpubAccess

/-- The settings. -/
structure Config where
  /-- The buffer size that the engine is told when a content stream opens. -/
  bufferSizeHint : UInt64
  /-- The most bytes that one read of a whole resource gives. -/
  maxReadAll : UInt64
  /-- The content root that package descriptions name. -/
  rootUrl : String
  /-- The media overlay root that package descriptions name. -/
  rootUrlMediaOverlay : String
  /-- Which log messages are shown. -/
  logFilter : String
  deriving DecidableEq, Inhabited

namespace Config

/-- The settings where nothing is said. -/
def default : Config :=
  { bufferSizeHint := 128 * 1024
    maxReadAll := 10 * 1024 * 1024
    rootUrl := "/"
    rootUrlMediaOverlay := "http://127.0.0.1:8080/"
    logFilter := "epub3_bridge=info" }

/-! ## The settings one by one. -/

/-- A single setting. -/
inductive Setting where
  | bufferSizeHint
  | maxReadAll
  | rootUrl
  | rootUrlMediaOverlay
  | logFilter
  deriving DecidableEq, Inhabited

namespace Setting

/-- Every setting, in order. -/
def all : List Setting := [.bufferSizeHint, .maxReadAll, .rootUrl, .rootUrlMediaOverlay, .logFilter]

/-- The variable that holds the setting. -/
def variableName : Setting → String
  | bufferSizeHint => "EPUB3_BUFFER_SIZE"
  | maxReadAll => "EPUB3_MAX_READ_ALL"
  | rootUrl => "EPUB3_ROOT_URL"
  | rootUrlMediaOverlay => "EPUB3_ROOT_URL_MO"
  | logFilter => "RUST_LOG"

/-- The name of the setting in a JSON object. -/
def key : Setting → String
  | bufferSizeHint => "buffer_size_hint"
  | maxReadAll => "max_read_all_bytes"
  | rootUrl => "root_url"
  | rootUrlMediaOverlay => "root_url_media_overlay"
  | logFilter => "log_filter"

end Setting

/-! ## Settings from variables. -/

/-- The size in a variable, `none` when it is not set. -/
def size? (lookup : String → Option String) (s : Setting) : Except AccessError (Option UInt64) :=
  match lookup s.variableName with
  | none => .ok none
  | some raw =>
    match Text.Size.parse (Text.trim raw.toList) with
    | .ok 0 => .error (.config (s.variableName ++ " must be positive"))
    | .ok n => .ok (some (UInt64.ofNat n))
    | .error e =>
      .error (.config (s.variableName ++ "=" ++ Text.Quoted.quote raw ++ ": " ++ e.message))

/-- The settings that variables describe. -/
def ofVariables (lookup : String → Option String) : Except AccessError Config := do
  let bufferSizeHint ← size? lookup .bufferSizeHint
  let maxReadAll ← size? lookup .maxReadAll
  .ok { bufferSizeHint := bufferSizeHint.getD default.bufferSizeHint
        maxReadAll := maxReadAll.getD default.maxReadAll
        rootUrl := (lookup Setting.rootUrl.variableName).getD default.rootUrl
        rootUrlMediaOverlay :=
          (lookup Setting.rootUrlMediaOverlay.variableName).getD default.rootUrlMediaOverlay
        logFilter := (lookup Setting.logFilter.variableName).getD default.logFilter }

/-! ## Settings from JSON. -/

/-- A size in a document: a whole number that is not negative. -/
def documentSize? : Json.Outline → Option UInt64
  | .number n => n.whole?.bind fun i => if 0 ≤ i then some (UInt64.ofNat i.toNat) else none
  | _ => none

/-- A text in a document. -/
def documentText? : Json.Outline → Option String
  | .text pieces => Json.text? pieces
  | _ => none

/-- One setting replaced by what a document says. -/
def set? (c : Config) (s : Setting) (v : Json.Outline) : Option Config :=
  match s with
  | .bufferSizeHint => (documentSize? v).map fun n => { c with bufferSizeHint := n }
  | .maxReadAll => (documentSize? v).map fun n => { c with maxReadAll := n }
  | .rootUrl => (documentText? v).map fun t => { c with rootUrl := t }
  | .rootUrlMediaOverlay => (documentText? v).map fun t => { c with rootUrlMediaOverlay := t }
  | .logFilter => (documentText? v).map fun t => { c with logFilter := t }

/-- The members of an object; `left` holds the settings that may still come. -/
def ofMembers? (c : Config) (left : List Setting) :
    List (List Json.Piece × Json.Outline) → Option Config
  | [] => some c
  | (name, v) :: rest => do
    let name ← Json.text? name
    match Setting.all.find? (·.key == name) with
    | none => ofMembers? c left rest
    | some s =>
      if s ∈ left then
        let c ← c.set? s v
        ofMembers? c (left.erase s) rest
      else none

/-- The items of an array, for the settings that are due. -/
def ofItems? (c : Config) : List Setting → List Json.Outline → Option Config
  | _, [] => some c
  | [], _ :: _ => none
  | s :: due, v :: rest => (c.set? s v).bind fun c => c.ofItems? due rest

/-- The settings that a JSON document describes. -/
def ofJson? (document : String) : Option Config :=
  match Json.outline? document.toList with
  | some (.object members) => default.ofMembers? Setting.all members
  | some (.array items) => default.ofItems? Setting.all items
  | _ => none

end Config

end EpubAccess
