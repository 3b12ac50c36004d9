/-
  EpubAccess.Manifest
  ────────────────────────────────
  The resources that a publication declares.

  A manifest item has a set of properties out of seven known ones.  The set
  is seven bits (`ItemProperties`); `parse` reads it from white-space
  separated names and ignores unknown ones, `text` writes the names in their
  fixed order with single blanks between them.
-/
import EpubAccess.Text.Blank

namespace EpubAccess

/-- The properties a manifest item may have, in the order of their bits. -/
inductive ItemProperty where
  | coverImage
  | mathml
  | nav
  | remoteResources
  | scripted
  | svg
  | switch
  deriving DecidableEq, Inhabited

namespace ItemProperty

/-- Every property, lowest bit first. -/
def all : List ItemProperty :=
  [.coverImage, .mathml, .nav, .remoteResources, .scripted, .svg, .switch]

/-- The name of a property. -/
def name : ItemProperty → String
  | .coverImage => "cover-image"
  | .mathml => "mathml"
  | .nav => "nav"
  | .remoteResources => "remote-resources"
  | .scripted => "scripted"
  | .svg => "svg"
  | .switch => "switch"

/-- The number of a property's bit. -/
def bit : ItemProperty → Nat
  | .coverImage => 0
  | .mathml => 1
  | .nav => 2
  | .remoteResources => 3
  | .scripted => 4
  | .svg => 5
  | .switch => 6

/-- The property that a name denotes. -/
def named? (token : String) : Option ItemProperty := all.find? fun p => p.name == token

end ItemProperty

/-- A set of properties, one bit each. -/
structure ItemProperties where
  bits : BitVec 7
  deriving DecidableEq, Inhabited

namespace ItemProperties

/-- The empty set. -/
def empty : ItemProperties := ⟨0⟩

/-- The set with one member. -/
def single (p : ItemProperty) : ItemProperties := ⟨BitVec.twoPow 7 p.bit⟩

/-- The set that a number's seven lowest bits describe; higher bits are dropped. -/
def ofNat (n : Nat) : ItemProperties := ⟨BitVec.ofNat 7 n⟩

/-- The set as a number. -/
def toNat (s : ItemProperties) : Nat := s.bits.toNat

/-- What is in either set. -/
def union (s t : ItemProperties) : ItemProperties := ⟨s.bits ||| t.bits⟩

/-- Is all of `t` in `s`? -/
def contains (s t : ItemProperties) : Bool := s.bits &&& t.bits == t.bits

/-- Is a property in the set? -/
def has (s : ItemProperties) (p : ItemProperty) : Bool := s.bits.getLsbD p.bit

/-- Is nothing in the set? -/
def isEmpty (s : ItemProperties) : Bool := s.bits == 0

/-- The set with the property that a name denotes, if it denotes one. -/
def insertNamed (s : ItemProperties) (token : String) : ItemProperties :=
  match ItemProperty.named? token with
  | some p => s.union (single p)
  | none => s

/-- The set named by the words of an attribute. -/
def parse (names : String) : ItemProperties :=
  ((Text.words names.toList).map String.ofList).foldl insertNamed empty

/-- The names of the properties in the set. -/
def names (s : ItemProperties) : List String :=
  (ItemProperty.all.filter s.has).map ItemProperty.name

/-- The set as an attribute. -/
def text (s : ItemProperties) : String := " ".intercalate s.names

end ItemProperties

/-- A declared resource. -/
structure ManifestItem where
  id : String
  href : String
  mediaType : String
  properties : ItemProperties
  deriving DecidableEq, Inhabited

namespace ManifestItem

/-- The media type of content documents. -/
def contentDocumentType : String := "application/xhtml+xml"

/-- Is the item a content document?  Only the exact media type counts. -/
def isContentDocument (item : ManifestItem) : Bool := item.mediaType == contentDocumentType

/-- The item as messages show it. -/
def text (item : ManifestItem) : String :=
  "ManifestItem [href=" ++ item.href ++ ", mediaType=" ++ item.mediaType ++ "]"

end ManifestItem

end EpubAccess
