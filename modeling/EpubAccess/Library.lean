/-
  EpubAccess.Library
  ────────────────────────────────
  A registry of publications.

  A `Library` knows containers by the path of their archive and publications
  by their unique identifier.  An entry names the path that a publication
  came from and its package, which is absent for entries that were read from
  a file and after the library closed its containers.  Entries stand in the
  order of their identifiers.

  A link from one publication to another is the scheme, the percent-encoded
  identifier of the publication and a slash, after which anything may follow.

  As a file a library is a JSON object from identifiers to paths, in
  ascending order of identifiers.  What is read back has the same identifiers
  and paths and neither containers nor packages.
-/
import EpubAccess.Json.Table
import EpubAccess.Package.Basic
import EpubAccess.Text.Percent

namespace EpubAccess

/-- A registered publication. -/
structure LibraryEntry where
  path : String
  package : Option PackageId
  deriving DecidableEq, Inhabited

/-- A registry of publications. -/
structure Library where
  containers : Std.ExtTreeMap String ContainerId
  entries : Std.ExtTreeMap String LibraryEntry

namespace Library

/-- Nothing registered. -/
def empty : Library := { containers := ∅, entries := ∅ }

instance : Inhabited Library := ⟨empty⟩

/-! ## Looking up. -/

/-- The number of publications. -/
def size (l : Library) : Nat := l.entries.size

/-- Is no publication registered? -/
def isEmpty (l : Library) : Bool := l.entries.isEmpty

/-- The identifiers, in ascending order. -/
def uniqueIds (l : Library) : List String := l.entries.keys

/-- The container registered under a path. -/
def container? (l : Library) (path : String) : Option ContainerId := l.containers[path]?

/-- The path of a publication. -/
def pathForUniqueId (l : Library) (id : String) : Option String :=
  (l.entries[id]?).map LibraryEntry.path

/-- Is an identifier a package identifier, alone or with something after an at sign? -/
def refersTo (packageId id : String) : Bool :=
  id == packageId || (packageId.toList ++ ['@']).isPrefixOf id.toList

/-- The path of the first publication that a package identifier refers to. -/
def pathForPackageId (l : Library) (packageId : String) : Option String :=
  (l.entries.toList.find? fun (id, _) => refersTo packageId id).map fun (_, e) => e.path

/-- The package of a publication. -/
def packageForUniqueId (l : Library) (id : String) : Option PackageId :=
  (l.entries[id]?).bind LibraryEntry.package

/-! ## Adding a container. -/

/-- Everything that belongs to some packages forgotten. -/
def forget (l : Library) (packages : List PackageId) : Library :=
  { l with
    entries := l.entries.filter fun _ e => !(e.package.any fun p => packages.contains p) }

/-- A container registered under its path. -/
def setContainer (l : Library) (path : String) (c : ContainerId) : Library :=
  { l with containers := l.containers.insert path c }

/-- The container that has to make way for another one under a path: the one
registered there, unless it is the same. -/
def replaced? (l : Library) (path : String) (c : ContainerId) : Option ContainerId :=
  (l.containers[path]?).filter (· != c)

/-- A package under its identifier. -/
def enter (l : Library) (path id : String) (p : PackageId) : Library :=
  { l with entries := l.entries.insert id { path, package := some p } }

/-- Packages entered one after the other, and how many of them were; those
without an identifier are left out. -/
def enterAll (l : Library) (path : String) : List (PackageId × Option String) → Nat × Library
  | [] => (0, l)
  | (_, none) :: rest => l.enterAll path rest
  | (p, some id) :: rest =>
    let (n, l) := (l.enter path id p).enterAll path rest
    (n + 1, l)

/-! ## Closing. -/

/-- No container registered. -/
def forgetContainers (l : Library) : Library := { l with containers := ∅ }

/-- No container registered, and no package at any entry. -/
def forgetObjects (l : Library) : Library :=
  { containers := ∅
    entries := l.entries.map fun _ e => { e with package := none } }

/-! ## What a library owns. -/

/-- Is the container registered? -/
def hasContainer (l : Library) (c : ContainerId) : Bool := l.containers.any fun _ d => d == c

/-- Is the package at some entry? -/
def hasPackage (l : Library) (p : PackageId) : Bool :=
  l.entries.any fun _ e => e.package == some p

/-- The registered containers, in the order of their paths. -/
def containerIds (l : Library) : List ContainerId := l.containers.values

/-- The packages at entries, in the order of their identifiers. -/
def packageIds (l : Library) : List PackageId := l.entries.values.filterMap LibraryEntry.package

/-! ## Links. -/

/-- What a link starts with. -/
def scheme : String := "epub3://"

/-- The link to a publication. -/
def urlForId (id : String) : String := scheme ++ Text.Percent.encode id ++ "/"

/-- The identifier that a link names, if it is a link. -/
def idOfUrl? (url : String) : Option String :=
  if scheme.toList.isPrefixOf url.toList then
    let host := (url.toList.drop scheme.length).takeWhile (· != '/')
    if host.isEmpty then none else Text.Percent.decode? (String.ofList host)
  else none

/-- The package of the publication that a link names. -/
def packageForUrl (l : Library) (url : String) : Option PackageId :=
  (idOfUrl? url).bind l.packageForUniqueId

/-! ## Files. -/

/-- The identifiers with their paths. -/
def paths (l : Library) : List (String × String) := l.entries.toList.map fun (id, e) => (id, e.path)

/-- The document of a library. -/
def toDocument (l : Library) : String := Json.Table.render l.paths

/-- The library with some paths and nothing else; of a repeated identifier the
last path counts. -/
def ofPaths (paths : List (String × String)) : Library :=
  { containers := ∅
    entries := paths.foldl (fun m (id, path) => m.insert id { path, package := none }) ∅ }

/-- The library that a document describes. -/
def ofDocument? (text : String) : Option Library := (Json.Table.parse? text).map ofPaths

/-- The library that the bytes of a file describe. -/
def ofBytes? (bytes : ByteArray) : Option Library := (String.fromUTF8? bytes).bind ofDocument?

end Library

end EpubAccess
