/-
  EpubAccess.Container
  ────────────────────────────────
  An opened archive.

  A container holds its own handle and the list of the packages attached to
  it, by number.  The name of a container is the last part of its path.
-/
import EpubAccess.Package.Basic
import EpubAccess.Text.Blank

namespace EpubAccess

/-- A container. -/
structure Container where
  handle : OwnedHandle
  path : String
  version : Option String
  packages : List PackageId
  config : Config
  deriving Inhabited

namespace Container

/-- Was the container closed? -/
def isClosed (c : Container) : Bool := c.handle.released

/-- The first package. -/
def defaultPackage? (c : Container) : Option PackageId := c.packages.head?

/-- The parts of a path that name something. -/
def pathParts (path : String) : List (List Char) :=
  (Text.cutAt (· == '/') path.toList).filter fun part => part != [] && part != ['.']

/-- The last part of a path, unless there is none or it names a parent
directory; then the whole path. -/
def fileName (path : String) : String :=
  match (pathParts path).getLast? with
  | some part => if part = ['.', '.'] then path else String.ofList part
  | none => path

/-- The name of the archive. -/
def name (c : Container) : String := fileName c.path

/-- A stream over a file of the archive, past all filters. -/
def rawStream (c : Container) (path : String) : StateM Gateway (Option ContentStream) :=
  match c.handle.get? with
  | none => do
    Gateway.emit (.closedContainerUsed c.handle.handle)
    pure none
  | some h => do
    match ← Gateway.rawContainerStream h path with
    | none => pure none
    | some s =>
      let s ← ContentStream.ofHandle s path c.config.maxReadAll
      pure (some s)

/-- A file of the archive, up to the cap. -/
def rawBytes (c : Container) (path : String) : StateM Gateway (Option ByteArray) := do
  match ← c.rawStream path with
  | none => pure none
  | some s =>
    let (bytes, s) ← s.readAll
    let _ ← s.close
    pure (some bytes)

end Container

end EpubAccess
