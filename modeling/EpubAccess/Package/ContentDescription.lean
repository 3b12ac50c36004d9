/-
  EpubAccess.Package.ContentDescription
  ────────────────────────────────
  The document from which a reading front end lays out a package.

  It names the content roots, the rendition, the spine in order and the media
  overlay data.  Overlay data that is missing or blank counts as an empty
  object, and so does malformed data, which is reported.
-/
import EpubAccess.Json.Reader
import EpubAccess.Package.Basic

namespace EpubAccess

/-- What becomes of the media overlay data of a package. -/
inductive Overlay where
  /-- There is none. -/
  | missing
  /-- It is not JSON. -/
  | malformed
  | value (v : Json)
  deriving Inhabited

namespace Overlay

/-- The overlay that a text describes. -/
def ofText? : Option String → Overlay
  | none => missing
  | some t =>
    if (Text.trim t.toList).isEmpty then missing
    else match Json.parse? t with
      | some v => value v
      | none => malformed

/-- The overlay in a document. -/
def toJson : Overlay → Json
  | value v => v
  | _ => .object []

end Overlay

namespace Package

/-- The spine in a document. -/
def spineJson (p : Package) : Json :=
  .object
    (("items", .array (p.spine.map SpineItem.toJson))
      :: Json.textMember? "direction" p.metadata.pageProgressionDirection)

/-- The document of a package, with its overlay. -/
def contentDescription (p : Package) (overlay : Overlay) : Json :=
  .object
    (("rootUrl", .string p.rootUrls.root)
      :: Json.textMember? "rootUrlMO" p.rootUrls.mediaOverlay
      ++ p.metadata.rendition.members
      ++ [("spine", p.spineJson), ("media_overlay", overlay.toJson)])

/-- The text of the document; malformed overlay data is reported. -/
def describe (p : Package) : StateM Gateway String := do
  let overlay := Overlay.ofText? p.mediaOverlay
  match overlay with
  | .malformed => Gateway.emit .mediaOverlayDiscarded
  | _ => pure ()
  pure (p.contentDescription overlay).compact

end Package

end EpubAccess
