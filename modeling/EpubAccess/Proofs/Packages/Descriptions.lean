/-
  EpubAccess.Proofs.Packages.Descriptions
  ────────────────────────────────
  The document of a package, read back.

    • `Package.document` — what a reader of the text has to find: each name
      with its value, or with none,
    • `normal_contentDescription` — the document that is written is this one
      once its members are put in order,
    • `Package.alike_of_document` — it determines everything that went in,
    • `descriptions_round_trip` — the text of any package parses to its
      document, so two packages with one text show the same.

  The overlay data is the one part that may be any JSON.  It is in normal form
  because it was parsed, and one level of brackets is left for the document
  around it.
-/
import EpubAccess.Package.ContentDescription
import EpubAccess.Proofs.Json.Values
import EpubAccess.Proofs.Ownership.Runs

namespace EpubAccess

open Json (present)

/-! ## §1. Objects of fields. -/

namespace Json

/-- The values of fields in normal form. -/
def normalFields (fields : List (String × Option Json)) : List (String × Option Json) :=
  fields.map fun (k, v) => (k, v.map normal)

theorem map_present (fields : List (String × Option Json)) :
    ((present fields).map fun (k, v) => (k, normal v)) = present (normalFields fields) := by
  induction fields with
  | nil => rfl
  | cons f fields ih =>
    obtain ⟨k, v⟩ := f
    cases v with
    | none => exact ih
    | some v => exact congrArg ((k, normal v) :: ·) ih

/-- An object whose fields are written in any order comes out in ascending
order. -/
theorem normal_present {fs gs : List (String × Option Json)} (hg : Ascending (gs.map Prod.fst))
    (h : ∀ f, f ∈ fs ↔ f ∈ gs) :
    normal (.object (present fs)) = .object (present (normalFields gs)) := by
  have hnames : Ascending ((normalFields gs).map Prod.fst) := by
    rw [normalFields, List.map_map]
    exact hg
  have hsame : ∀ f, f ∈ normalFields fs ↔ f ∈ normalFields gs := by
    intro f
    rw [normalFields, normalFields, List.mem_map, List.mem_map]
    simp only [h]
  rw [normal_object, map_present, canonical_present hnames hsame]

@[simp] theorem normalFields_nil : normalFields [] = [] := rfl

@[simp] theorem normalFields_cons (k : String) (v : Option Json)
    (fields : List (String × Option Json)) :
    normalFields ((k, v) :: fields) = (k, v.map normal) :: normalFields fields := rfl

@[simp] theorem normalFields_textField (key : String) (value : Option String)
    (fields : List (String × Option Json)) :
    normalFields (textField key value :: fields) = textField key value :: normalFields fields := by
  cases value <;> rfl

/-- The value of the field, if it has one, is read back. -/
def LegibleField (room : Nat) (f : String × Option Json) : Prop :=
  ∀ v, f.2 = some v → Legible v room

/-- An object of fields is read back if the values of its fields are. -/
theorem legible_present {fields : List (String × Option Json)} {room : Nat}
    (h : ∀ f ∈ fields, LegibleField room f) : Legible (.object (present fields)) (room + 1) := by
  refine legible_object.mpr ⟨room, rfl, ?_⟩
  rintro ⟨k, v⟩ hm
  exact h (k, some v) (mem_present.mp hm) v rfl

theorem legibleField_textField (key : String) (value : Option String) (room : Nat) :
    LegibleField room (textField key value) := by
  intro v hv
  cases value with
  | none => cases hv
  | some s =>
    obtain rfl : Json.string s = v := Option.some.inj hv
    exact legible_string s room

theorem legibleField_some {key : String} {v : Json} {room : Nat} (h : Legible v room) :
    LegibleField room (key, some v) := by
  intro w hw
  obtain rfl := Option.some.inj hw
  exact h

theorem textField_inj {key : String} {value value' : Option String} :
    textField key value = textField key value' ↔ value = value' := by
  refine ⟨fun h => ?_, fun h => by rw [h]⟩
  exact Option.map_injective (fun _ _ => Json.string.inj) (congrArg Prod.snd h)

end Json

open Json (textField)

/-! ## §2. Renditions and spine items. -/

/-- The fields of a rendition, in ascending order. -/
def Rendition.fields (r : Rendition) : List (String × Option Json) :=
  [textField "rendition_flow" r.flow, textField "rendition_layout" r.layout,
    textField "rendition_orientation" r.orientation, textField "rendition_spread" r.spread]

theorem Rendition.fields_injective : Function.Injective Rendition.fields := by
  rintro ⟨layout, flow, orientation, spread⟩ ⟨layout', flow', orientation', spread'⟩ h
  simp only [Rendition.fields, List.cons.injEq, Json.textField_inj, and_true] at h
  obtain ⟨rfl, rfl, rfl, rfl⟩ := h
  rfl

namespace SpineItem

/-- The fields of a spine item, in ascending order. -/
def fields (item : SpineItem) : List (String × Option Json) :=
  [textField "href" (some item.href),
    textField "idref" (some item.idref),
    textField "linear" (some (if item.linear then "yes" else "no")),
    textField "media_overlay_id" item.mediaOverlayId,
    textField "media_type" (some item.mediaType),
    textField "page_spread" item.pageSpread] ++ item.rendition.fields

/-- What a reader finds of a spine item. -/
def document (item : SpineItem) : Json := .object (present item.fields)

/-- The item without its title, which no document shows. -/
def shown (item : SpineItem) : SpineItem := { item with title := none }

/-- The fields of a spine item in the order in which they are written. -/
def written (item : SpineItem) : List (String × Option Json) :=
  [textField "href" (some item.href),
    textField "media_type" (some item.mediaType),
    textField "page_spread" item.pageSpread,
    textField "idref" (some item.idref),
    textField "rendition_layout" item.rendition.layout,
    textField "rendition_flow" item.rendition.flow,
    textField "rendition_orientation" item.rendition.orientation,
    textField "rendition_spread" item.rendition.spread,
    textField "linear" (some (if item.linear then "yes" else "no")),
    textField "media_overlay_id" item.mediaOverlayId]

theorem toJson_eq (item : SpineItem) : item.toJson = .object (present item.written) := by
  rw [toJson, Rendition.members, written]
  simp [Json.present_textField, Json.textMember?_some, Json.present_nil]

theorem mem_written (item : SpineItem) (f : String × Option Json) :
    f ∈ item.written ↔ f ∈ item.fields := by
  simp only [written, fields, Rendition.fields, List.cons_append, List.nil_append, List.mem_cons,
    List.not_mem_nil, or_false]
  tauto

theorem ascending_fields (item : SpineItem) : Json.Ascending (item.fields.map Prod.fst) := by
  show Json.Ascending ["href", "idref", "linear", "media_overlay_id", "media_type", "page_spread",
    "rendition_flow", "rendition_layout", "rendition_orientation", "rendition_spread"]
  decide +kernel

theorem normal_toJson (item : SpineItem) : item.toJson.normal = item.document := by
  have hfields : Json.normalFields item.fields = item.fields := by
    simp [fields, Rendition.fields]
  rw [toJson_eq, Json.normal_present item.ascending_fields item.mem_written, hfields, document]

theorem legible_toJson (item : SpineItem) : Json.Legible item.toJson 1 := by
  rw [toJson_eq]
  refine Json.legible_present ?_
  simp [written, Json.legibleField_textField]

/-- Two spine items with one document differ in their titles at most. -/
theorem shown_of_document {item item' : SpineItem} (h : item.document = item'.document) :
    item.shown = item'.shown := by
  -- the names are the same in every document, so the values are too
  have hfields : item.fields = item'.fields :=
    Json.present_injective rfl item.ascending_fields.nodup (Json.object.inj h)
  simp only [fields, List.cons_append, List.nil_append, List.cons.injEq, Json.textField_inj,
    Option.some.injEq] at hfields
  obtain ⟨hhref, hidref, hyes, hoverlay, htype, hpage, hfields⟩ := hfields
  have hrendition : item.rendition = item'.rendition := Rendition.fields_injective hfields
  have hlinear : item.linear = item'.linear := by
    cases hl : item.linear <;> cases hl' : item'.linear <;> simp [hl, hl'] at hyes ⊢
  simp [shown, hhref, hidref, hlinear, hoverlay, htype, hpage, hrendition]

end SpineItem

/-! ## §3. Packages. -/

namespace Package

/-- The overlay data of the package: what its text parses to, or an empty object
if there is no text or it does not parse. -/
def overlay (p : Package) : Json := (p.mediaOverlay.bind Json.parse?).getD (.object [])

/-- The fields of the spine, in ascending order. -/
def spineFields (p : Package) : List (String × Option Json) :=
  [textField "direction" p.metadata.pageProgressionDirection,
    ("items", some (.array (p.spine.map SpineItem.document)))]

/-- The fields of the document, in ascending order, with the objects of the
spine and of the overlay data. -/
def documentFields (p : Package) (spine overlay : Json) : List (String × Option Json) :=
  ("media_overlay", some overlay) :: p.metadata.rendition.fields
    ++ [textField "rootUrl" (some p.rootUrls.root),
      textField "rootUrlMO" p.rootUrls.mediaOverlay,
      ("spine", some spine)]

/-- What a reader finds of a package. -/
def document (p : Package) : Json :=
  .object (present (p.documentFields (.object (present p.spineFields)) p.overlay))

theorem ascending_documentFields (p : Package) (spine overlay : Json) :
    Json.Ascending ((p.documentFields spine overlay).map Prod.fst) := by
  show Json.Ascending ["media_overlay", "rendition_flow", "rendition_layout",
    "rendition_orientation", "rendition_spread", "rootUrl", "rootUrlMO", "spine"]
  decide

theorem ascending_spineFields (p : Package) : Json.Ascending (p.spineFields.map Prod.fst) := by
  show Json.Ascending ["direction", "items"]
  decide

/-! ### Overlay data. -/

/-- Between tokens a blank is skipped or refused. -/
theorem fresh_of_isBlank (done : List Json.Token) {c : Char} (h : Text.isBlank c = true) :
    Json.Lexer.fresh done c = some ⟨done, .between⟩ ∨ Json.Lexer.fresh done c = none := by
  have hne : ∀ d : Char, Text.isBlank d = false → c ≠ d := by
    rintro d hd rfl
    rw [h] at hd
    cases hd
  have hdigit : Json.isDigit c = false := by
    simp only [Text.isBlank, Bool.or_eq_true, Bool.and_eq_true, decide_eq_true_eq, beq_iff_eq] at h
    have hrange : ¬(48 ≤ c.toNat ∧ c.toNat ≤ 57) := by omega
    simp [Json.isDigit, Json.digit?, hrange]
  -- JSON knows four of the blanks; none of the others starts a token
  by_cases hspace : c = ' ' ∨ c = '\n' ∨ c = '\r' ∨ c = '\t'
  · exact .inl (by simp [Json.Lexer.fresh, hspace])
  · refine .inr ?_
    simp [Json.Lexer.fresh, hspace, hdigit, hne '[' (by decide), hne ']' (by decide),
      hne '\x7b' (by decide), hne '\x7d' (by decide), hne ':' (by decide), hne ',' (by decide),
      hne '"' (by decide), hne 'n' (by decide), hne 't' (by decide), hne 'f' (by decide),
      hne '-' (by decide)]

/-- A blank text has no tokens. -/
theorem run_of_blank {cs : List Char} (h : ∀ c ∈ cs, Text.isBlank c = true) :
    Json.Lexer.run ⟨[], .between⟩ cs = some [] ∨ Json.Lexer.run ⟨[], .between⟩ cs = none := by
  induction cs with
  | nil => exact .inl rfl
  | cons c cs ih =>
    rw [Json.Lexer.run_cons]
    show ((Json.Lexer.fresh [] c).bind _ = _) ∨ ((Json.Lexer.fresh [] c).bind _ = _)
    rcases fresh_of_isBlank [] (h c List.mem_cons_self) with hskip | hrefused
    · rw [hskip]
      exact ih fun d hd => h d (List.mem_cons_of_mem c hd)
    · rw [hrefused]
      exact .inr rfl

/-- A blank text is not JSON. -/
theorem parse?_of_blank {t : String} (h : (Text.trim t.toList).isEmpty = true) :
    Json.parse? t = none := by
  have hblank : ∀ c ∈ t.toList, Text.isBlank c = true := by
    have hback : ∀ c ∈ t.toList.dropWhile Text.isBlank, Text.isBlank c = true := by
      simpa [Text.trim] using h
    intro c hc
    rw [← List.takeWhile_append_dropWhile (p := Text.isBlank) (l := t.toList)] at hc
    rcases List.mem_append.mp hc with hfront | hrest
    · exact List.mem_takeWhile_imp hfront
    · exact hback c hrest
  have houtline : Json.outline? t.toList = none := by
    rw [Json.outline?, Json.tokens?_eq_run]
    rcases run_of_blank hblank with hrun | hrun <;> rw [hrun] <;> rfl
  rw [Json.parse?, houtline]
  rfl

/-- Blank and malformed overlay data counts as an empty object. -/
theorem toJson_ofText? (p : Package) : (Overlay.ofText? p.mediaOverlay).toJson = p.overlay := by
  cases hm : p.mediaOverlay with
  | none => rw [overlay, hm]; rfl
  | some t =>
    rw [overlay, hm, Option.bind_some, Overlay.ofText?]
    -- blank text is not parsed at all, but it would not parse either
    split
    · next hblank => rw [parse?_of_blank hblank]; rfl
    · cases Json.parse? t <;> rfl

theorem normal_overlay (p : Package) : p.overlay.normal = p.overlay := by
  rw [overlay]
  cases h : p.mediaOverlay.bind Json.parse? with
  | none => rfl
  | some v =>
    obtain ⟨t, _, hv⟩ := Option.bind_eq_some_iff.mp h
    exact (Json.readBack_of_parse? hv).normal

/-- If the overlay data is JSON, it leaves room for the document around it, and
its numbers are whole. -/
def PlainOverlay (p : Package) : Prop :=
  ∀ t v, p.mediaOverlay = some t → Json.parse? t = some v →
    v.depth ≤ 126 ∧ ∀ n ∈ v.numbers, ∃ i, n = .whole i

theorem legible_overlay {p : Package} (h : p.PlainOverlay) : Json.Legible p.overlay 126 := by
  rw [overlay]
  cases hparse : p.mediaOverlay.bind Json.parse? with
  | none => exact Json.legible_object.mpr ⟨125, rfl, by simp⟩
  | some v =>
    obtain ⟨t, ht, hv⟩ := Option.bind_eq_some_iff.mp hparse
    obtain ⟨hdepth, hwhole⟩ := h t v ht hv
    refine ⟨fun n hn => ?_, hdepth⟩
    obtain ⟨i, rfl⟩ := hwhole n hn
    exact ⟨i, (Json.readBack_of_parse? hv).fits i hn, rfl⟩

/-! ### The document as it is written. -/

/-- The fields of the document in the order in which they are written. -/
def written (p : Package) : List (String × Option Json) :=
  [textField "rootUrl" (some p.rootUrls.root),
    textField "rootUrlMO" p.rootUrls.mediaOverlay,
    textField "rendition_layout" p.metadata.rendition.layout,
    textField "rendition_flow" p.metadata.rendition.flow,
    textField "rendition_orientation" p.metadata.rendition.orientation,
    textField "rendition_spread" p.metadata.rendition.spread,
    ("spine", some p.spineJson),
    ("media_overlay", some p.overlay)]

/-- The fields of the spine in the order in which they are written. -/
def writtenSpine (p : Package) : List (String × Option Json) :=
  [("items", some (.array (p.spine.map SpineItem.toJson))),
    textField "direction" p.metadata.pageProgressionDirection]

theorem spineJson_eq (p : Package) : p.spineJson = .object (present p.writtenSpine) := by
  rw [spineJson, writtenSpine]
  simp [Json.present_some, Json.present_textField, Json.present_nil]

theorem contentDescription_eq (p : Package) :
    p.contentDescription (Overlay.ofText? p.mediaOverlay) = .object (present p.written) := by
  rw [contentDescription, toJson_ofText?, Rendition.members, written]
  simp [Json.present_textField, Json.present_some, Json.textMember?_some, Json.present_nil]

theorem normal_spineJson (p : Package) : p.spineJson.normal = .object (present p.spineFields) := by
  -- the two fields are written in the other order
  have hnames : Json.Ascending (p.writtenSpine.reverse.map Prod.fst) := p.ascending_spineFields
  have hitems : (p.spine.map SpineItem.toJson).map Json.normal
      = p.spine.map SpineItem.document := by
    rw [List.map_map]
    exact List.map_congr_left fun item _ => item.normal_toJson
  rw [spineJson_eq, Json.normal_present hnames fun f => List.mem_reverse.symm]
  simp [writtenSpine, spineFields, Json.normal_array, hitems]

/-- **The document that is written** has the members of `document`. -/
theorem normal_contentDescription (p : Package) :
    (p.contentDescription (Overlay.ofText? p.mediaOverlay)).normal = p.document := by
  have hsame : ∀ f, f ∈ p.written ↔ f ∈ p.documentFields p.spineJson p.overlay := by
    intro f
    simp only [written, documentFields, Rendition.fields, List.cons_append, List.nil_append,
      List.mem_cons, List.not_mem_nil, or_false]
    tauto
  have hnormal : Json.normalFields (p.documentFields p.spineJson p.overlay)
      = p.documentFields (.object (present p.spineFields)) p.overlay := by
    simp [documentFields, Rendition.fields, normal_overlay, normal_spineJson]
  rw [contentDescription_eq, Json.normal_present (p.ascending_documentFields _ _) hsame, hnormal,
    document]

theorem legible_spineJson (p : Package) : Json.Legible p.spineJson 3 := by
  have hitems : Json.Legible (.array (p.spine.map SpineItem.toJson)) 2 :=
    Json.legible_array.mpr ⟨1, rfl, List.forall_mem_map.mpr fun item _ => item.legible_toJson⟩
  rw [spineJson_eq]
  refine Json.legible_present ?_
  simp [writtenSpine, Json.legibleField_textField, Json.legibleField_some hitems]

theorem legible_contentDescription {p : Package} (h : p.PlainOverlay) :
    Json.Legible (p.contentDescription (Overlay.ofText? p.mediaOverlay)) Json.nestingLimit := by
  have hspine : Json.Legible p.spineJson 126 := p.legible_spineJson.mono (by decide)
  rw [contentDescription_eq]
  refine Json.legible_present ?_
  simp [written, Json.legibleField_textField, Json.legibleField_some hspine,
    Json.legibleField_some (legible_overlay h)]

/-! ## §4. The text of the document. -/

theorem describe_apply (p : Package) (g : Gateway) :
    (p.describe g).1 = (p.contentDescription (Overlay.ofText? p.mediaOverlay)).compact := by
  rw [describe]
  cases Overlay.ofText? p.mediaOverlay <;> rfl

/-- **The text of a package parses to its document.** -/
theorem parse?_describe {p : Package} (h : p.PlainOverlay) (g : Gateway) :
    Json.parse? (p.describe g).1 = some p.document := by
  rw [describe_apply, Json.parse?_compact (legible_contentDescription h),
    normal_contentDescription]

/-- Everything that a document shows is the same of both packages. -/
structure Alike (p q : Package) : Prop where
  rootUrls : p.rootUrls = q.rootUrls
  rendition : p.metadata.rendition = q.metadata.rendition
  direction : p.metadata.pageProgressionDirection = q.metadata.pageProgressionDirection
  spine : p.spine.map SpineItem.shown = q.spine.map SpineItem.shown
  overlay : p.overlay = q.overlay

theorem map_shown_of_map_document {items items' : List SpineItem}
    (h : items.map SpineItem.document = items'.map SpineItem.document) :
    items.map SpineItem.shown = items'.map SpineItem.shown := by
  induction items generalizing items' with
  | nil =>
    obtain rfl : items' = [] := by simpa using h.symm
    rfl
  | cons item items ih =>
    cases items' with
    | nil => cases h
    | cons item' items' =>
      simp only [List.map_cons, List.cons.injEq] at h ⊢
      exact ⟨SpineItem.shown_of_document h.1, ih h.2⟩

/-- **The document determines everything that went in.** -/
theorem alike_of_document {p q : Package} (h : p.document = q.document) : Alike p q := by
  have hfields : p.documentFields (.object (present p.spineFields)) p.overlay
      = q.documentFields (.object (present q.spineFields)) q.overlay :=
    Json.present_injective rfl (p.ascending_documentFields _ _).nodup (Json.object.inj h)
  obtain ⟨hoverlay, hrest⟩ := List.cons.inj hfields
  obtain ⟨hrendition, htail⟩ := List.append_inj hrest rfl
  simp only [List.cons.injEq, Json.textField_inj, Option.some.injEq, Prod.mk.injEq, true_and,
    and_true, Json.object.injEq] at htail hoverlay
  obtain ⟨hroot, hmediaOverlay, hspine⟩ := htail
  have hspineFields : p.spineFields = q.spineFields :=
    Json.present_injective rfl p.ascending_spineFields.nodup hspine
  simp only [spineFields, List.cons.injEq, Json.textField_inj, Option.some.injEq, Prod.mk.injEq,
    true_and, and_true, Json.array.injEq] at hspineFields
  exact
    { rootUrls := by
        cases hp : p.rootUrls
        cases hq : q.rootUrls
        simpa [hp, hq] using And.intro hroot hmediaOverlay
      rendition := Rendition.fields_injective hrendition
      direction := hspineFields.1
      spine := map_shown_of_map_document hspineFields.2
      overlay := hoverlay }

end Package

/-! ## §5. The command. -/

namespace Host

open Stateful

variable {w : Host} {slot : String} {id : PackageId} {p : Package}

theorem after_setRootUrls (ho : w.slots[slot]? = some (.package id))
    (hp : w.packages.get? id = some p) (urls : RootUrls) :
    after [.package slot (.setRootUrls urls)] w
      = { w with packages := w.packages.set id { p with rootUrls := urls } } := by
  show (runPackage slot (.setRootUrls urls) w).2 = _
  rw [runPackage, withPackage_some ho hp]
  rfl

theorem run_describe (ho : w.slots[slot]? = some (.package id))
    (hp : w.packages.get? id = some p) :
    (run (.package slot .describe) w).1 = .text (some (p.describe w.gateway).1) := by
  show (runPackage slot .describe w).1 = _
  rw [runPackage, withPackage_some ho hp]
  rfl

/-- **Descriptions survive their text.**  Whatever root URLs were set, asking a
package for its description succeeds, the text parses to exactly the document
of the package, and a package whose description has the same text shows the
same in every respect. -/
theorem descriptions_round_trip (ho : w.slots[slot]? = some (.package id))
    (hp : w.packages.get? id = some p) (hplain : p.PlainOverlay) (urls : RootUrls) :
    ∃ text, (run (.package slot .describe) (after [.package slot (.setRootUrls urls)] w)).1
        = .text (some text) ∧
      Json.parse? text = some ({ p with rootUrls := urls } : Package).document ∧
      ∀ (q : Package) (g : Gateway), q.PlainOverlay → (q.describe g).1 = text →
        Package.Alike { p with rootUrls := urls } q := by
  have hplain' : ({ p with rootUrls := urls } : Package).PlainOverlay := hplain
  have hparse := Package.parse?_describe hplain' w.gateway
  have hset := Pool.get?_set_self w.packages id { p with rootUrls := urls }
  refine ⟨(({ p with rootUrls := urls } : Package).describe w.gateway).1, ?_, hparse, ?_⟩
  · rw [after_setRootUrls ho hp]
    exact run_describe ho hset
  · intro q g hq htext
    have hparse' := Package.parse?_describe hq g
    rw [htext, hparse] at hparse'
    exact Package.alike_of_document (Option.some.inj hparse')

/-- Overlay data with an array of whole numbers. -/
def sampleOverlay : Json :=
  .object [("smil", .array [.number (.whole 1), .number (.whole (-2))])]

/-- A package with one spine item, a direction and overlay data. -/
def describedPackage : Package :=
  { (default : Package) with
    metadata := { Metadata.empty with pageProgressionDirection := some "rtl" }
    spine := [{ (default : SpineItem) with href := "1.xhtml", pageSpread := some "left \"a\"" }]
    mediaOverlay := some sampleOverlay.compact }

/-- A host that holds the package in a slot. -/
def describingHost : Host :=
  { fresh with
    packages := (fresh.packages.add describedPackage).2
    slots := (∅ : Std.ExtTreeMap String Holding).insert "package" (.package 0) }

theorem plainOverlay_describedPackage : describedPackage.PlainOverlay := by
  have hnumbers : sampleOverlay.numbers = [.whole 1, .whole (-2)] := rfl
  have hwhole : ∀ n ∈ sampleOverlay.numbers, ∃ i, n = .whole i := by simp [hnumbers]
  have hlegible : Json.Legible sampleOverlay Json.nestingLimit :=
    ⟨by simp [hnumbers, Json.FitsWord], by decide⟩
  intro t v ht hv
  obtain rfl : sampleOverlay.compact = t := Option.some.inj ht
  have hnormal : sampleOverlay.normal = sampleOverlay := by
    rw [sampleOverlay, Json.normal_object]
    exact congrArg Json.object (Json.canonical_of_ascending (by decide))
  rw [Json.parse?_compact hlegible, hnormal] at hv
  obtain rfl := Option.some.inj hv
  exact ⟨by decide, hwhole⟩

theorem descriptions_round_trip_sample :
    ∃ text, (run (.package "package" .describe)
        (after [.package "package" (.setRootUrls ⟨"/b/", none⟩)] describingHost)).1
          = .text (some text) ∧
      Json.parse? text
        = some ({ describedPackage with rootUrls := ⟨"/b/", none⟩ } : Package).document := by
  have ho : describingHost.slots["package"]? = some (.package 0) := by simp [describingHost]
  have hp : describingHost.packages.get? 0 = some describedPackage := by
    simp [describingHost, Pool.get?_add, fresh, Pool.empty]
  obtain ⟨text, hanswer, hparse, -⟩ :=
    descriptions_round_trip ho hp plainOverlay_describedPackage ⟨"/b/", none⟩
  exact ⟨text, hanswer, hparse⟩

end Host

end EpubAccess
