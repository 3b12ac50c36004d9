/-
  EpubAccess.Spine
  ────────────────────────────────
  The reading order of a publication.

  A `SpineItem` refers to a manifest item and may override the publication's
  rendition (`effective`).  Its JSON object leaves out what is absent, says
  `yes` or `no` for linear, and never holds the title.
-/
import EpubAccess.Rendition

namespace EpubAccess

/-- One entry of the reading order. -/
structure SpineItem where
  idref : String
  href : String
  mediaType : String
  pageSpread : Option String
  rendition : Rendition
  linear : Bool
  mediaOverlayId : Option String
  title : Option String
  deriving DecidableEq, Inhabited

namespace SpineItem

/-- The item's rendition, open values filled from the publication's. -/
def effective (item : SpineItem) (publication : Rendition) : Rendition :=
  item.rendition.orElse publication

/-- Is this item composed in advance, given the publication's rendition? -/
def isFixedLayout (item : SpineItem) (publication : Rendition) : Bool :=
  (item.effective publication).isFixedLayout

/-- The item as a JSON object. -/
def toJson (item : SpineItem) : Json :=
  .object
    ([("href", .string item.href), ("media_type", .string item.mediaType)]
      ++ Json.textMember? "page_spread" item.pageSpread
      ++ [("idref", .string item.idref)]
      ++ item.rendition.members
      ++ [("linear", .string (if item.linear then "yes" else "no"))]
      ++ Json.textMember? "media_overlay_id" item.mediaOverlayId)

end SpineItem

end EpubAccess
