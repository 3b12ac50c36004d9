/-
  EpubAccess.Rendition
  ────────────────────────────────
  How pages want to be shown.

  A publication and each of its spine items may state a layout, a flow, an
  orientation and a spread.  `orElse` fills what an item leaves open from the
  publication.  Absent and empty values are both open on the item's side; the
  publication's value is taken as it is.
-/
import EpubAccess.Json.Basic

namespace EpubAccess

/-- The four rendition properties. -/
structure Rendition where
  layout : Option String
  flow : Option String
  orientation : Option String
  spread : Option String
  deriving DecidableEq, Inhabited

namespace Rendition

/-- Nothing stated. -/
def empty : Rendition := ⟨none, none, none, none⟩

/-- The first value unless it is absent or empty, else the second. -/
def pick (own fallback : Option String) : Option String :=
  match own with
  | some v => if v.isEmpty then fallback else some v
  | none => fallback

/-- Every open value filled from `fallback`. -/
def orElse (own fallback : Rendition) : Rendition :=
  { layout := pick own.layout fallback.layout
    flow := pick own.flow fallback.flow
    orientation := pick own.orientation fallback.orientation
    spread := pick own.spread fallback.spread }

/-- The layout of pages that are composed in advance. -/
def prePaginated : String := "pre-paginated"

/-- Are the pages composed in advance? -/
def isFixedLayout (r : Rendition) : Bool := r.layout == some prePaginated

/-- The members of a rendition in a JSON object. -/
def members (r : Rendition) : List (String × Json) :=
  Json.textMember? "rendition_layout" r.layout
    ++ Json.textMember? "rendition_flow" r.flow
    ++ Json.textMember? "rendition_orientation" r.orientation
    ++ Json.textMember? "rendition_spread" r.spread

/-- A rendition on its own. -/
def toJson (r : Rendition) : Json := .object r.members

end Rendition

end EpubAccess
