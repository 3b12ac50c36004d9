/-
  EpubAccess.Engine.Description
  ────────────────────────────────
  Archives as the in-memory engine serves them.

  An `Archive` has files and packages; a `PackageDescription` has everything
  that can be asked of a package.  A filtered resource stands for content
  that passes through the engine's filters: only its raw streams and its
  streams for ranges let the cursor jump.
-/
import Std.Data.ExtTreeMap
import EpubAccess.Manifest
import EpubAccess.Metadata
import EpubAccess.Navigation
import EpubAccess.Spine

namespace EpubAccess

/-- The bytes of a resource; their number is below 2 ^ 63, as for everything
that a memory can hold. -/
structure Contents where
  bytes : ByteArray
  size_lt : bytes.size < 0x8000000000000000

namespace Contents

/-- No bytes. -/
def empty : Contents := ⟨ByteArray.empty, by decide⟩

instance : Inhabited Contents := ⟨empty⟩

/-- The number of bytes. -/
def size (c : Contents) : Nat := c.bytes.size

/-- Bytes as contents, if they are few enough. -/
def ofBytes? (bytes : ByteArray) : Option Contents :=
  if h : bytes.size < 0x8000000000000000 then some ⟨bytes, h⟩ else none

end Contents

/-- A resource that a package serves. -/
structure Resource where
  contents : Contents
  filtered : Bool
  deriving Inhabited

/-- The name of a package property: its vocabulary and its name there. -/
structure PropertyName where
  vocabulary : String
  name : String
  deriving DecidableEq, Inhabited

/-- The vocabulary of the rendition properties. -/
def renditionVocabulary : String := "rendition"

/-- Everything that can be asked of one package. -/
structure PackageDescription where
  metadata : MetadataField → Option String
  authorList : List String
  subjects : List String
  spine : List SpineItem
  manifest : List ManifestItem
  mediaOverlay : Option String
  properties : List (PropertyName × String)
  navigation : NavKind → Option NavTable
  resources : Std.ExtTreeMap String Resource

namespace PackageDescription

/-- A package of which nothing is known. -/
def empty : PackageDescription :=
  { metadata := fun _ => none
    authorList := []
    subjects := []
    spine := []
    manifest := []
    mediaOverlay := none
    properties := []
    navigation := fun _ => none
    resources := ∅ }

instance : Inhabited PackageDescription := ⟨empty⟩

/-- A property set; it replaces an earlier value. -/
def withProperty (d : PackageDescription) (p : PropertyName) (value : String) :
    PackageDescription :=
  { d with properties := (p, value) :: d.properties }

/-- A resource added; it replaces an earlier one at the same path. -/
def withResource (d : PackageDescription) (path : String) (r : Resource) : PackageDescription :=
  { d with resources := d.resources.insert path r }

/-- The value of a property. -/
def property? (d : PackageDescription) (p : PropertyName) : Option String := d.properties.lookup p

end PackageDescription

/-- An archive: its version, its packages in order and its files. -/
structure Archive where
  version : Option String
  packages : List PackageDescription
  files : Std.ExtTreeMap String Contents

namespace Archive

/-- An archive with nothing in it. -/
def empty : Archive := { version := none, packages := [], files := ∅ }

instance : Inhabited Archive := ⟨empty⟩

/-- A file added; it replaces an earlier one at the same path. -/
def withFile (a : Archive) (path : String) (c : Contents) : Archive :=
  { a with files := a.files.insert path c }

end Archive

end EpubAccess
