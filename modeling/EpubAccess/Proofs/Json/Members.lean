/-
  EpubAccess.Proofs.Json.Members
  ────────────────────────────────
  The members of an object, in any order and in ascending order.

    • `toList_ofList` — the ascending order is the only one: members that
      ascend and are those of a list are the list put in order,
    • `present` — objects with optional members: a field that has a value is
      a member, and a field without one leaves nothing behind,
    • `canonical_present`, `present_injective` — fields are put in order
      before their values are known, and are read off the members again.
-/
import Mathlib.Data.List.Nodup
import EpubAccess.Json.Reader

namespace EpubAccess.Json

variable {β : Type}

/-! ## §1. Ascending names. -/

/-- Each name comes before the next one, so no name stands twice. -/
def Ascending (names : List String) : Prop := names.Pairwise fun a b => compare a b = .lt

instance (names : List String) : Decidable (Ascending names) :=
  inferInstanceAs (Decidable (names.Pairwise fun a b => compare a b = .lt))

theorem Ascending.nodup {names : List String} (h : Ascending names) : names.Nodup :=
  List.Pairwise.imp (fun {a b} hab heq => by subst heq; simp at hab) h

/-- Two lists of the same members, both ascending, are equal. -/
theorem Ascending.ext {ms ns : List (String × β)} (hm : Ascending (ms.map Prod.fst))
    (hn : Ascending (ns.map Prod.fst)) (h : ∀ m, m ∈ ms ↔ m ∈ ns) : ms = ns := by
  have hperm : ms.Perm ns :=
    (List.perm_ext_iff_of_nodup (hm.nodup.of_map Prod.fst) (hn.nodup.of_map Prod.fst)).mpr h
  refine List.Perm.eq_of_pairwise ?_ (List.pairwise_map.mp hm) (List.pairwise_map.mp hn) hperm
  intro a b _ _ hab hba
  exact absurd hba (Std.OrientedCmp.not_lt_of_lt hab)

/-! ## §2. The ordered map of a list of members. -/

section

open Std

theorem ascending_toList (t : ExtTreeMap String β) : Ascending (t.toList.map Prod.fst) :=
  List.pairwise_map.mpr t.ordered_keys_toList

theorem mem_of_getElem?_foldl {ms : List (String × β)} {t : ExtTreeMap String β} {k : String}
    {v : β} (h : (ms.foldl (fun m x => m.insert x.1 x.2) t)[k]? = some v) :
    (k, v) ∈ ms ∨ t[k]? = some v := by
  induction ms generalizing t with
  | nil => exact .inr h
  | cons m ms ih =>
    rcases ih h with hmem | hinsert
    · exact .inl (List.mem_cons_of_mem m hmem)
    · rw [ExtTreeMap.getElem?_insert] at hinsert
      split at hinsert
      · next heq =>
        obtain rfl := LawfulEqCmp.eq_of_compare heq
        obtain rfl := Option.some.inj hinsert
        exact .inl List.mem_cons_self
      · exact .inr hinsert

/-- Putting members in order invents none. -/
theorem mem_of_mem_ofList {ms : List (String × β)} {m : String × β}
    (h : m ∈ (ExtTreeMap.ofList ms).toList) : m ∈ ms := by
  obtain ⟨k, v⟩ := m
  rw [ExtTreeMap.mem_toList_iff_getElem?_eq_some, ExtTreeMap.ofList_eq_foldl] at h
  rcases mem_of_getElem?_foldl h with hmem | hempty
  · exact hmem
  · simp at hempty

/-- Putting members in order loses no name. -/
theorem exists_mem_ofList {ms : List (String × β)} {k : String} {v : β} (h : (k, v) ∈ ms) :
    ∃ w, (k, w) ∈ (ExtTreeMap.ofList ms).toList := by
  have hname : k ∈ ExtTreeMap.ofList ms := by
    rw [ExtTreeMap.mem_ofList, List.contains_iff_mem]
    exact List.mem_map_of_mem h
  exact ⟨(ExtTreeMap.ofList ms)[k], ExtTreeMap.mem_toList_iff_getElem?_eq_some.mpr
    (ExtTreeMap.getElem?_eq_some_getElem hname)⟩

/-- **The ascending order is the only one.** -/
theorem toList_ofList {ms ns : List (String × β)} (hn : Ascending (ns.map Prod.fst))
    (h : ∀ m, m ∈ ms ↔ m ∈ ns) : (ExtTreeMap.ofList ms).toList = ns := by
  refine (ascending_toList _).ext hn fun m => ⟨fun hm => (h m).mp (mem_of_mem_ofList hm), ?_⟩
  intro hm
  obtain ⟨k, v⟩ := m
  obtain ⟨w, hw⟩ := exists_mem_ofList ((h (k, v)).mpr hm)
  have hv : v = w := by
    have hpair := List.inj_on_of_nodup_map hn.nodup hm ((h (k, w)).mp (mem_of_mem_ofList hw)) rfl
    exact congrArg Prod.snd hpair
  rw [hv]
  exact hw

/-- An ordered map is made again from its members. -/
theorem ofList_toList (t : ExtTreeMap String β) : ExtTreeMap.ofList t.toList = t :=
  ExtTreeMap.toList_inj.mp (toList_ofList (ascending_toList t) fun _ => Iff.rfl)

end

theorem canonical_eq_toList (ms : List (String × Json)) :
    canonical ms = (Std.ExtTreeMap.ofList ms).toList := by
  rw [Std.ExtTreeMap.ofList_eq_foldl]
  rfl

theorem mem_of_mem_canonical {ms : List (String × Json)} {m : String × Json}
    (h : m ∈ canonical ms) : m ∈ ms :=
  mem_of_mem_ofList (canonical_eq_toList ms ▸ h)

/-- Members in ascending order stay as they are. -/
theorem canonical_of_ascending {ms : List (String × Json)} (h : Ascending (ms.map Prod.fst)) :
    canonical ms = ms := by
  rw [canonical_eq_toList]
  exact toList_ofList h fun _ => Iff.rfl

theorem ascending_canonical (ms : List (String × Json)) :
    Ascending ((canonical ms).map Prod.fst) := by
  rw [canonical_eq_toList]
  exact ascending_toList _

/-! ## §3. Fields that may have no value. -/

/-- The fields that have a value. -/
def present (fields : List (String × Option β)) : List (String × β) :=
  fields.filterMap fun (k, v) => v.map (k, ·)

theorem mem_present {fields : List (String × Option β)} {k : String} {v : β} :
    (k, v) ∈ present fields ↔ (k, some v) ∈ fields := by
  rw [present, List.mem_filterMap]
  constructor
  · rintro ⟨⟨j, o⟩, hmem, hmap⟩
    simp only [Option.map_eq_some_iff, Prod.mk.injEq] at hmap
    obtain ⟨w, rfl, rfl, rfl⟩ := hmap
    exact hmem
  · intro hmem
    exact ⟨(k, some v), hmem, rfl⟩

theorem present_nil : present ([] : List (String × Option β)) = [] := rfl

theorem present_some (key : String) (value : β) (fields : List (String × Option β)) :
    present ((key, some value) :: fields) = (key, value) :: present fields := rfl

/-- A field that is a text, if it has a value. -/
def textField (key : String) (value : Option String) : String × Option Json :=
  (key, value.map Json.string)

theorem present_textField (key : String) (value : Option String)
    (fields : List (String × Option Json)) :
    present (textField key value :: fields) = textMember? key value ++ present fields := by
  cases value <;> rfl

theorem textMember?_some (key value : String) :
    textMember? key (some value) = [(key, .string value)] := rfl

/-- The names of the fields with a value stand in the order of all names. -/
theorem map_fst_present_sublist (fields : List (String × Option β)) :
    ((present fields).map Prod.fst).Sublist (fields.map Prod.fst) := by
  induction fields with
  | nil => exact List.Sublist.refl []
  | cons f fields ih =>
    obtain ⟨k, o⟩ := f
    cases o with
    | none => exact ih.cons k
    | some v => exact ih.cons_cons k

/-- **Fields are put in order before their values are known.** -/
theorem canonical_present {fs gs : List (String × Option Json)}
    (hg : Ascending (gs.map Prod.fst)) (h : ∀ f, f ∈ fs ↔ f ∈ gs) :
    canonical (present fs) = present gs := by
  rw [canonical_eq_toList]
  refine toList_ofList (List.Pairwise.sublist (map_fst_present_sublist gs) hg) ?_
  rintro ⟨k, v⟩
  rw [mem_present, mem_present, h]

theorem not_mem_present {fs : List (String × Option β)} {k : String} (hk : k ∉ fs.map Prod.fst)
    (v : β) : (k, v) ∉ present fs :=
  fun h => hk (List.mem_map_of_mem (mem_present.mp h))

/-- **Fields are read off the members**, if no name stands twice. -/
theorem present_injective {fs gs : List (String × Option β)}
    (hnames : fs.map Prod.fst = gs.map Prod.fst) (hnodup : (fs.map Prod.fst).Nodup)
    (h : present fs = present gs) : fs = gs := by
  induction fs generalizing gs with
  | nil => simpa using hnames.symm
  | cons f fs ih =>
    cases gs with
    | nil => simp at hnames
    | cons g gs =>
      obtain ⟨k, o⟩ := f
      obtain ⟨j, o'⟩ := g
      simp only [List.map_cons, List.cons.injEq] at hnames
      obtain ⟨rfl, htail⟩ := hnames
      obtain ⟨hk, hrest⟩ := List.nodup_cons.mp hnodup
      -- a value on one side only would be a member of the other side's rest
      cases o with
      | none =>
        cases o' with
        | none => rw [ih htail hrest h]
        | some w =>
          have hmembers : present fs = (k, w) :: present gs := h
          exact absurd (hmembers ▸ List.mem_cons_self) (not_mem_present hk w)
      | some v =>
        cases o' with
        | none =>
          have hmembers : (k, v) :: present fs = present gs := h
          exact absurd (hmembers ▸ List.mem_cons_self) (not_mem_present (htail ▸ hk) v)
        | some w =>
          have hcons : (k, v) :: present fs = (k, w) :: present gs := h
          simp only [List.cons.injEq, Prod.mk.injEq, true_and] at hcons
          rw [hcons.1, ih htail hrest hcons.2]

end EpubAccess.Json
