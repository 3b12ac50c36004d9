/-
  EpubAccess.Proofs.Packages.Properties
  ────────────────────────────────
  The properties of a manifest item, read and written.

    • `ItemProperties.ext_has` — a set of properties is known by its members,
    • `ItemProperties.has_parse` — an attribute has the properties that are named
      among its words,
    • `ItemProperties.parse_text` — every set is read back from the attribute it is
      written as,
    • `ItemProperties.properties_parse` — parsing, joining and writing attributes.
-/
import EpubAccess.Manifest
import EpubAccess.Proofs.Text.Blanks
import Mathlib.Data.List.Basic

namespace EpubAccess

/-! ## §1. Names. -/

namespace ItemProperty

theorem mem_all (p : ItemProperty) : p ∈ all := by
  cases p <;> decide

theorem named?_name (p : ItemProperty) : named? p.name = some p := by
  cases p <;> rfl

/-- **A name denotes the one property that has it.** -/
theorem named?_eq_some {token : String} {p : ItemProperty} :
    named? token = some p ↔ p.name = token := by
  constructor
  · intro h
    simpa using List.find?_some h
  · rintro rfl
    exact named?_name p

theorem name_injective : Function.Injective name := by
  intro p q h
  have hq : named? p.name = some q := named?_eq_some.mpr h.symm
  rw [named?_name] at hq
  exact Option.some.inj hq

/-- Every bit of a set is that of a property. -/
theorem exists_bit : ∀ i < 7, ∃ p ∈ all, p.bit = i := by
  decide

/-- A name is a word. -/
theorem solid_name (p : ItemProperty) : Text.Solid p.name.toList ∧ p.name.toList ≠ [] := by
  have hsolid : p.name.toList.all (fun c => !Text.isBlank c) = true := by cases p <;> rfl
  have hne : p.name.toList ≠ [] := by cases p <;> decide
  refine ⟨?_, hne⟩
  intro c hc
  simpa using List.all_eq_true.mp hsolid c hc

end ItemProperty

/-! ## §2. Members. -/

namespace ItemProperties

/-- **A set of properties is known by its members.** -/
theorem ext_has {s t : ItemProperties} (h : ∀ p, s.has p = t.has p) : s = t := by
  have hbits : s.bits = t.bits := by
    apply BitVec.eq_of_getLsbD_eq
    intro i hi
    obtain ⟨p, -, rfl⟩ := ItemProperty.exists_bit i hi
    exact h p
  exact congrArg ItemProperties.mk hbits

@[simp] theorem has_empty (p : ItemProperty) : empty.has p = false := by
  cases p <;> rfl

@[simp] theorem has_single (p q : ItemProperty) : (single p).has q = decide (p = q) := by
  cases p <;> cases q <;> rfl

@[simp] theorem has_union (s t : ItemProperties) (p : ItemProperty) :
    (s.union t).has p = (s.has p || t.has p) :=
  BitVec.getLsbD_or

/-- A set contains a single property exactly when it has it. -/
theorem contains_single (s : ItemProperties) (p : ItemProperty) :
    s.contains (single p) = s.has p := by
  -- what the set has in common with the single bit is that bit or nothing
  have hne : BitVec.twoPow 7 p.bit ≠ 0#7 := by cases p <;> decide
  rw [contains, single, has, BitVec.and_twoPow]
  cases s.bits.getLsbD p.bit with
  | true => simp
  | false => simpa using hne.symm

theorem has_insertNamed (s : ItemProperties) (token : String) (p : ItemProperty) :
    (s.insertNamed token).has p = true ↔ s.has p = true ∨ p.name = token := by
  rw [insertNamed, ← ItemProperty.named?_eq_some]
  cases ItemProperty.named? token with
  | none => simp
  | some q => simp

theorem has_foldl_insertNamed (tokens : List String) (s : ItemProperties) (p : ItemProperty) :
    (tokens.foldl insertNamed s).has p = true ↔ s.has p = true ∨ p.name ∈ tokens := by
  induction tokens generalizing s with
  | nil => simp
  | cons token tokens ih =>
    -- a name that was inserted stays, whatever is inserted later
    rw [List.foldl_cons, ih, has_insertNamed, List.mem_cons, or_assoc]

/-! ## §3. Attributes. -/

theorem has_parse_iff_mem (names : String) (p : ItemProperty) :
    (parse names).has p = true ↔ p.name.toList ∈ Text.words names.toList := by
  rw [parse, has_foldl_insertNamed, has_empty, List.mem_map]
  constructor
  · rintro (h | ⟨w, hw, hname⟩)
    · cases h
    · rwa [← hname, String.toList_ofList]
  · intro h
    exact .inr ⟨_, h, String.ofList_toList⟩

/-- **An attribute has the properties that are named among its words.** -/
theorem has_parse (names : String) (p : ItemProperty) :
    (parse names).has p = true ↔ Text.IsWord p.name.toList names.toList := by
  rw [has_parse_iff_mem, Text.mem_words_iff]

/-- **Attributes with a blank between them name what either of them names.** -/
theorem parse_append_blank {c : Char} (hc : Text.isBlank c = true) (s t : String) :
    parse (s ++ c.toString ++ t) = (parse s).union (parse t) := by
  apply ext_has
  intro p
  rw [Bool.eq_iff_iff, has_union, Bool.or_eq_true, has_parse_iff_mem, has_parse_iff_mem,
    has_parse_iff_mem]
  have htext : (s ++ c.toString ++ t).toList = s.toList ++ c :: t.toList := by simp
  rw [htext, Text.words_append_blank hc, List.mem_append]

theorem mem_names {s : ItemProperties} {p : ItemProperty} :
    p.name ∈ s.names ↔ s.has p = true := by
  rw [names, List.mem_map_of_injective ItemProperty.name_injective, List.mem_filter]
  exact and_iff_right p.mem_all

theorem words_text (s : ItemProperties) : Text.words s.text.toList = s.names.map String.toList := by
  rw [text, String.toList_intercalate]
  apply Text.words_intercalate (by decide)
  intro w hw
  rw [names, List.map_map] at hw
  obtain ⟨p, -, rfl⟩ := List.mem_map.mp hw
  exact p.solid_name

/-- **Every set is read back from the attribute it is written as.** -/
theorem parse_text (s : ItemProperties) : parse s.text = s := by
  apply ext_has
  intro p
  rw [Bool.eq_iff_iff, has_parse_iff_mem, words_text,
    List.mem_map_of_injective (fun _ _ h => String.toList_injective h), mem_names]

/-- The names in their fixed order. -/
theorem map_name_all : ItemProperty.all.map ItemProperty.name =
    ["cover-image", "mathml", "nav", "remote-resources", "scripted", "svg", "switch"] :=
  rfl

/-- The names that are written are among the known ones, in their order and each once. -/
theorem names_sublist (s : ItemProperties) :
    s.names.Sublist (ItemProperty.all.map ItemProperty.name) ∧ s.names.Nodup := by
  have hsub : s.names.Sublist (ItemProperty.all.map ItemProperty.name) :=
    List.filter_sublist.map ItemProperty.name
  exact ⟨hsub, hsub.nodup (by decide)⟩

/-- **Attributes parse to the properties they name.** A property is in the set that is
read exactly if its name is a word of the attribute. Attributes with a blank
between them give the union, the set is written as the names it holds, each
once, in their order and with single spaces, and what is written is read as
the same set. -/
theorem properties_parse (s : String) :
    (∀ p : ItemProperty, (parse s).contains (single p) = true ↔
        Text.IsWord p.name.toList s.toList) ∧
      (∀ (c : Char) (t : String), Text.isBlank c = true →
        parse (s ++ c.toString ++ t) = (parse s).union (parse t)) ∧
      (∃ names : List String,
        names.Sublist
            ["cover-image", "mathml", "nav", "remote-resources", "scripted", "svg", "switch"] ∧
          names.Nodup ∧
          (∀ p : ItemProperty, p.name ∈ names ↔ Text.IsWord p.name.toList s.toList) ∧
          (parse s).text = " ".intercalate names) ∧
      parse (parse s).text = parse s := by
  refine ⟨?members, fun c t hc => parse_append_blank hc s t, ?written, parse_text (parse s)⟩
  case members =>
    intro p
    rw [contains_single, has_parse]
  case written =>
    obtain ⟨hsub, hnodup⟩ := names_sublist (parse s)
    refine ⟨(parse s).names, ?_, hnodup, ?_, rfl⟩
    · rwa [map_name_all] at hsub
    · intro p
      rw [mem_names, has_parse]

/-- Two names and an unknown one are read, with an ideographic space between them. -/
theorem properties_parse_sample :
    Text.isBlank '\u3000' = true ∧
      parse ("svg SVG" ++ '\u3000'.toString ++ "nav") = (parse "svg SVG").union (parse "nav") :=
  ⟨by decide, (properties_parse "svg SVG").2.1 '\u3000' "nav" (by decide)⟩

end ItemProperties

end EpubAccess
