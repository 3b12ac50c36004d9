/-
  EpubAccess.Proofs.Libraries.Lookup
  ────────────────────────────────
  Which publication a package identifier refers to.

    • `Text.Percent.octets_lt` — texts compare as their UTF-8 octets do,
    • `find?_eq_some_of_ascending` — the first fitting element of an ascending
      list is the least one,
    • `pathForPackageId_eq_some` — a lookup finds the least identifier that is
      meant,
    • `lookup_prefers_exact` — the identifier itself if it is registered, and
      otherwise the first of its versions.

  A version of an identifier is longer and so comes after it, whatever other
  identifiers come in between.
-/
import EpubAccess.Library

namespace EpubAccess

/-! ## §1. Texts compare as their octets. -/

namespace Text.Percent

theorem octets_eq_flatMap (s : String) : octets s = s.toList.flatMap String.utf8EncodeChar := by
  conv => lhs; rw [← String.ofList_toList (s := s)]
  show (String.ofList s.toList).toByteArray.data.toList = _
  rw [String.toByteArray_ofList, List.utf8Encode, List.data_toByteArray, List.toList_toArray]

theorem ofNat_cons_lt_ofNat_cons {a b : Nat} {l m : List UInt8} (ha : a < 256) (hb : b < 256) :
    UInt8.ofNat a :: l < UInt8.ofNat b :: m ↔ a < b ∨ a = b ∧ l < m := by
  rw [List.cons_lt_cons_iff, UInt8.lt_iff_toNat_lt, ← UInt8.toNat_inj,
    UInt8.toNat_ofNat_of_lt' ha, UInt8.toNat_ofNat_of_lt' hb]

theorem div_lt_or_mod_lt {a b : Nat} (h : a < b) :
    a / 64 < b / 64 ∨ a / 64 = b / 64 ∧ a % 64 < b % 64 := by
  omega

/-- Numbers compare as their digits to the base 64, the leading one as large as it is. -/
theorem digits_lt {a b : Nat} (h : a < b) :
    a / 262144 < b / 262144 ∨ a / 262144 = b / 262144 ∧
      (a / 4096 % 64 < b / 4096 % 64 ∨ a / 4096 % 64 = b / 4096 % 64 ∧
        (a / 64 % 64 < b / 64 % 64 ∨ a / 64 % 64 = b / 64 % 64 ∧ a % 64 < b % 64)) := by
  have ha6 : a / 64 / 64 = a / 4096 := Nat.div_div_eq_div_mul a 64 64
  have hb6 : b / 64 / 64 = b / 4096 := Nat.div_div_eq_div_mul b 64 64
  have ha12 : a / 4096 / 64 = a / 262144 := Nat.div_div_eq_div_mul a 4096 64
  have hb12 : b / 4096 / 64 = b / 262144 := Nat.div_div_eq_div_mul b 4096 64
  rcases div_lt_or_mod_lt h with h | ⟨h, h0⟩
  · rcases div_lt_or_mod_lt h with h | ⟨h, h6⟩
    · rw [ha6, hb6] at h
      rcases div_lt_or_mod_lt h with h | ⟨h, h12⟩ <;> omega
    · omega
  · omega

/-- **A smaller character has smaller octets**, whatever follows. -/
theorem utf8EncodeChar_lt {c d : Char} (h : c < d) (l m : List UInt8) :
    String.utf8EncodeChar c ++ l < String.utf8EncodeChar d ++ m := by
  have hcd : c.val.toNat < d.val.toNat := h
  have hd : d.val.toNat < 1114112 := by
    have hvalid := d.valid
    simp only [UInt32.isValidChar, Nat.isValidChar] at hvalid
    omega
  unfold String.utf8EncodeChar
  generalize c.val.toNat = a at hcd ⊢
  generalize d.val.toNat = b at hcd hd ⊢
  have hdigits := digits_lt hcd
  have ha : a / 262144 % 8 = a / 262144 := Nat.mod_eq_of_lt (by omega)
  have hb : b / 262144 % 8 = b / 262144 := Nat.mod_eq_of_lt (by omega)
  dsimp only
  -- one case for every two lengths, of which the first is at most the second
  repeat' split
  all_goals
    simp (disch := omega) only [List.cons_append, List.nil_append, ofNat_cons_lt_ofNat_cons]
    omega

theorem utf8EncodeChar_ne_nil (c : Char) : String.utf8EncodeChar c ≠ [] :=
  List.ne_nil_of_length_pos (by rw [String.length_utf8EncodeChar]; exact c.utf8Size_pos)

theorem flatMap_utf8EncodeChar_lt {cs ds : List Char} (h : cs < ds) :
    cs.flatMap String.utf8EncodeChar < ds.flatMap String.utf8EncodeChar := by
  induction cs generalizing ds with
  | nil =>
    cases ds with
    | nil => exact absurd h (List.lt_irrefl [])
    | cons d ds =>
      obtain ⟨b, bs, hd⟩ := List.exists_cons_of_ne_nil (utf8EncodeChar_ne_nil d)
      rw [List.flatMap_cons, hd]
      exact List.nil_lt_cons _ _
  | cons c cs ih =>
    cases ds with
    | nil => exact absurd h (List.not_lt_nil _)
    | cons d ds =>
      rw [List.flatMap_cons, List.flatMap_cons]
      rcases List.cons_lt_cons_iff.mp h with hcd | ⟨rfl, hlt⟩
      · exact utf8EncodeChar_lt hcd _ _
      · exact List.append_left_lt (ih hlt)

/-- **The order of texts is that of their octets.** -/
theorem octets_lt {s t : String} (h : s < t) : octets s < octets t := by
  rw [octets_eq_flatMap, octets_eq_flatMap]
  exact flatMap_utf8EncodeChar_lt (String.lt_iff.mp h)

end Text.Percent

/-! ## §2. The first entry in order. -/

/-- In an ascending list the first that passes a test is the one before all
others that do. -/
theorem find?_eq_some_of_ascending {α : Type} {lt : α → α → Prop} {test : α → Bool} {xs : List α}
    (hxs : xs.Pairwise lt) (hasymm : ∀ a b, lt a b → ¬ lt b a) (b : α) :
    xs.find? test = some b ↔
      b ∈ xs ∧ test b = true ∧ ∀ a ∈ xs, test a = true → a = b ∨ lt b a := by
  induction xs with
  | nil => simp
  | cons x xs ih =>
    obtain ⟨hx, hxs⟩ := List.pairwise_cons.mp hxs
    cases htest : test x with
    | true =>
      rw [List.find?_cons_of_pos htest, Option.some.injEq]
      constructor
      · rintro rfl
        exact ⟨.head _, htest, fun a ha _ => (List.mem_cons.mp ha).imp_right (hx a)⟩
      · rintro ⟨hb, -, hleast⟩
        rcases List.mem_cons.mp hb with rfl | hb
        · rfl
        · exact (hleast x (.head _) htest).resolve_right (hasymm x b (hx b hb))
    | false =>
      have hne : ∀ a, test a = true → a ≠ x := fun a ha heq => by
        rw [heq, htest] at ha
        cases ha
      rw [List.find?_cons_of_neg (by rw [htest]; decide), ih hxs]
      constructor
      · rintro ⟨hb, hbtest, hleast⟩
        exact ⟨.tail _ hb, hbtest, fun a ha hatest =>
          hleast a ((List.mem_cons.mp ha).resolve_left (hne a hatest)) hatest⟩
      · rintro ⟨hb, hbtest, hleast⟩
        exact ⟨(List.mem_cons.mp hb).resolve_left (hne b hbtest), hbtest,
          fun a ha => hleast a (.tail _ ha)⟩

namespace Library

open Text.Percent (octets octets_lt)

theorem compare_eq_lt_iff {s t : String} : compare s t = .lt ↔ s < t := compareOfLessAndEq_eq_lt

theorem not_lt_of_compare {s t : String} (h : s < t) : ¬ t < s := by
  rw [← compare_eq_lt_iff] at h ⊢
  have hswap : compare t s = (compare s t).swap := Std.OrientedCmp.eq_swap
  rw [hswap, h]
  decide

/-- Entries with their keys stand in ascending order. -/
theorem entries_ascending (l : Library) :
    l.entries.toList.Pairwise fun a b => a.1 < b.1 :=
  Std.ExtTreeMap.ordered_keys_toList.imp compare_eq_lt_iff.mp

/-- **A package identifier finds the least identifier that it refers to.** -/
theorem pathForPackageId_eq_some (l : Library) (packageId path : String) :
    l.pathForPackageId packageId = some path ↔
      ∃ id, l.pathForUniqueId id = some path ∧ refersTo packageId id = true ∧
        ∀ id' ∈ l.entries, refersTo packageId id' = true → id' = id ∨ id < id' := by
  have hfind : ∀ x, l.entries.toList.find? (fun x => refersTo packageId x.1) = some x ↔
      x ∈ l.entries.toList ∧ refersTo packageId x.1 = true ∧
        ∀ y ∈ l.entries.toList, refersTo packageId y.1 = true → y = x ∨ x.1 < y.1 :=
    find?_eq_some_of_ascending l.entries_ascending fun _ _ => not_lt_of_compare
  rw [pathForPackageId, Option.map_eq_some_iff]
  constructor
  · rintro ⟨⟨id, e⟩, hfound, rfl⟩
    obtain ⟨hmem, hrefers, hleast⟩ := (hfind (id, e)).mp hfound
    have hid : l.entries[id]? = some e := Std.ExtTreeMap.mem_toList_iff_getElem?_eq_some.mp hmem
    refine ⟨id, by rw [pathForUniqueId, hid]; rfl, hrefers, fun id' hid' hrefers' => ?_⟩
    have hmem' := Std.ExtTreeMap.mem_toList_iff_getElem?_eq_some.mpr
      (Std.ExtTreeMap.getElem?_eq_some_getElem hid')
    exact (hleast _ hmem' hrefers').imp_left (congrArg Prod.fst)
  · rintro ⟨id, hpath, hrefers, hleast⟩
    obtain ⟨e, hid, hpath⟩ := Option.map_eq_some_iff.mp hpath
    refine ⟨(id, e), (hfind (id, e)).mpr ⟨?_, hrefers, ?_⟩, hpath⟩
    · exact Std.ExtTreeMap.mem_toList_iff_getElem?_eq_some.mpr hid
    · rintro ⟨id', e'⟩ hmem' hrefers'
      have hid' := Std.ExtTreeMap.mem_toList_iff_getElem?_eq_some.mp hmem'
      have hin : id' ∈ l.entries := Std.ExtTreeMap.mem_iff_isSome_getElem?.mpr (by rw [hid']; rfl)
      refine (hleast id' hin hrefers').imp_left fun heq => ?_
      subst heq
      rw [Option.some.inj (hid'.symm.trans hid)]

/-! ## §3. Versions of an identifier. -/

/-- A registered identifier that is a package identifier with an at sign and
whatever after it. -/
def HasVersion (l : Library) (packageId id : String) : Prop :=
  id ∈ l.entries ∧ ∃ rest, id = packageId ++ "@" ++ rest

/-- The registered version whose octets come first. -/
def FirstVersion (l : Library) (packageId id : String) : Prop :=
  l.HasVersion packageId id ∧ ∀ id', l.HasVersion packageId id' → octets id ≤ octets id'

theorem refersTo_iff (packageId id : String) :
    refersTo packageId id = true ↔ id = packageId ∨ ∃ rest, id = packageId ++ "@" ++ rest := by
  rw [refersTo, Bool.or_eq_true, beq_iff_eq, List.isPrefixOf_iff_prefix]
  refine or_congr_right ⟨?_, ?_⟩
  · rintro ⟨rest, hrest⟩
    exact ⟨String.ofList rest, String.toList_inj.mp (by simp [← hrest])⟩
  · rintro ⟨rest, rfl⟩
    exact ⟨rest.toList, by simp⟩

/-- An identifier comes before its versions. -/
theorem lt_version (packageId rest : String) : packageId < packageId ++ "@" ++ rest := by
  rw [String.lt_iff, String.toList_append, String.toList_append, List.append_assoc]
  conv => lhs; rw [← List.append_nil packageId.toList]
  exact List.append_left_lt (List.nil_lt_cons _ _)

theorem HasVersion.refersTo {l : Library} {packageId id : String} (h : l.HasVersion packageId id) :
    refersTo packageId id = true :=
  (refersTo_iff packageId id).mpr (.inr h.2)

/-- The first version is the least text. -/
theorem FirstVersion.le {l : Library} {packageId id id' : String}
    (h : l.FirstVersion packageId id) (h' : l.HasVersion packageId id') : id' = id ∨ id < id' := by
  cases hcmp : compare id id' with
  | lt => exact .inr (compare_eq_lt_iff.mp hcmp)
  | eq => exact .inl (Std.LawfulEqCmp.eq_of_compare hcmp).symm
  | gt =>
    have hlt : id' < id := compare_eq_lt_iff.mp (Std.OrientedCmp.lt_of_gt hcmp)
    exact absurd (octets_lt hlt) (List.not_lt.mpr (h.2 id' h'))

/-! ## §4. Exact matches and versions. -/

theorem mem_iff_pathForUniqueId (l : Library) (id : String) :
    id ∈ l.entries ↔ ∃ path, l.pathForUniqueId id = some path := by
  rw [Std.ExtTreeMap.mem_iff_isSome_getElem?, pathForUniqueId, Option.isSome_iff_exists]
  constructor
  · rintro ⟨e, he⟩
    exact ⟨e.path, by rw [he]; rfl⟩
  · rintro ⟨path, hpath⟩
    obtain ⟨e, he, -⟩ := Option.map_eq_some_iff.mp hpath
    exact ⟨e, he⟩

/-- What a package identifier refers to is the identifier or one of its versions. -/
theorem refersTo_registered {l : Library} {packageId id : String} (hid : id ∈ l.entries) :
    refersTo packageId id = true ↔ id = packageId ∨ l.HasVersion packageId id := by
  rw [refersTo_iff, HasVersion]
  exact or_congr_right ⟨fun h => ⟨hid, h⟩, fun h => h.2⟩

/-- A lookup fails where nothing registered is meant. -/
theorem pathForPackageId_eq_none (l : Library) (packageId : String) :
    l.pathForPackageId packageId = none ↔ ∀ id ∈ l.entries, refersTo packageId id ≠ true := by
  rw [pathForPackageId, Option.map_eq_none_iff, List.find?_eq_none]
  constructor
  · intro h id hid
    exact h (id, l.entries[id]) (Std.ExtTreeMap.mem_toList_iff_getElem?_eq_some.mpr
      (Std.ExtTreeMap.getElem?_eq_some_getElem hid))
  · rintro h ⟨id, e⟩ hmem
    have hid := Std.ExtTreeMap.mem_toList_iff_getElem?_eq_some.mp hmem
    exact h id (Std.ExtTreeMap.mem_iff_isSome_getElem?.mpr (by rw [hid]; rfl))

/-- **Lookup by package identifier.** An identifier that is registered finds
its own path, whatever else begins with it; any other finds the path of
its first version in the order of octets, and nothing if it has no version. -/
theorem lookup_prefers_exact (l : Library) (packageId : String) :
    (packageId ∈ l.entries → l.pathForPackageId packageId = l.pathForUniqueId packageId) ∧
      (packageId ∉ l.entries → ∀ path, l.pathForPackageId packageId = some path ↔
        ∃ id, l.FirstVersion packageId id ∧ l.pathForUniqueId id = some path) ∧
      (l.pathForPackageId packageId = none ↔
        packageId ∉ l.entries ∧ ∀ id, ¬ l.HasVersion packageId id) := by
  refine ⟨?exact, ?version, ?none⟩
  case exact =>
    intro hin
    obtain ⟨path, hpath⟩ := (l.mem_iff_pathForUniqueId packageId).mp hin
    rw [hpath, pathForPackageId_eq_some]
    refine ⟨packageId, hpath, (refersTo_registered hin).mpr (.inl rfl), fun id hid hrefers => ?_⟩
    refine ((refersTo_registered hid).mp hrefers).imp_right fun hversion => ?_
    obtain ⟨-, rest, rfl⟩ := hversion
    exact lt_version packageId rest
  case version =>
    intro hout path
    -- what is referred to is a version, as the identifier itself is not registered
    have hversions : ∀ id ∈ l.entries, refersTo packageId id = true → l.HasVersion packageId id :=
      fun id hid hrefers => ((refersTo_registered hid).mp hrefers).resolve_left
        fun heq => hout (heq ▸ hid)
    rw [pathForPackageId_eq_some]
    constructor
    · rintro ⟨id, hpath, hrefers, hleast⟩
      have hid := (l.mem_iff_pathForUniqueId id).mpr ⟨path, hpath⟩
      refine ⟨id, ⟨hversions id hid hrefers, fun id' hid' => ?_⟩, hpath⟩
      rcases hleast id' hid'.1 hid'.refersTo with rfl | hlt
      · exact List.le_refl _
      · exact List.le_of_lt (octets_lt hlt)
    · rintro ⟨id, hfirst, hpath⟩
      exact ⟨id, hpath, hfirst.1.refersTo,
        fun id' hid' hrefers' => hfirst.le (hversions id' hid' hrefers')⟩
  case none =>
    rw [pathForPackageId_eq_none]
    constructor
    · intro hnone
      exact ⟨fun hin => hnone packageId hin ((refersTo_registered hin).mpr (.inl rfl)),
        fun id hid => hnone id hid.1 hid.refersTo⟩
    · rintro ⟨hout, hnone⟩ id hid hrefers
      rcases (refersTo_registered hid).mp hrefers with rfl | hversion
      · exact hout hid
      · exact hnone id hversion

/-- Two versions of one identifier, and an identifier that comes before them. -/
def sampleVersions : Library :=
  ((Library.empty.enter "second" "u@2" 1).enter "first" "u@1" 0).enter "other" "u!" 2

theorem mem_sampleVersions (id : String) :
    id ∈ sampleVersions.entries ↔ id = "u!" ∨ id = "u@1" ∨ id = "u@2" := by
  simp [sampleVersions, enter, empty, Std.ExtTreeMap.mem_insert,
    Std.LawfulEqCmp.compare_eq_iff_eq, eq_comm (b := id)]

theorem lookup_prefers_exact_sample :
    "u" ∉ sampleVersions.entries ∧ sampleVersions.pathForPackageId "u" = some "first" := by
  have hout : "u" ∉ sampleVersions.entries := by rw [mem_sampleVersions]; decide
  have hpath : sampleVersions.pathForUniqueId "u@1" = some "first" := by
    rw [pathForUniqueId, sampleVersions, enter, enter, Std.ExtTreeMap.getElem?_insert,
      if_neg (by decide), Std.ExtTreeMap.getElem?_insert_self]
    rfl
  have hfirst : sampleVersions.FirstVersion "u" "u@1" := by
    refine ⟨⟨(mem_sampleVersions _).mpr (.inr (.inl rfl)), "1", by decide⟩, ?_⟩
    rintro id ⟨hid, rest, hrest⟩
    rcases (mem_sampleVersions id).mp hid with rfl | rfl | rfl
    · exact absurd (congrArg String.toList hrest) (by simp)
    · exact List.le_refl _
    · decide +kernel
  exact ⟨hout, ((lookup_prefers_exact sampleVersions "u").2.1 hout "first").mpr
    ⟨"u@1", hfirst, hpath⟩⟩

end Library

end EpubAccess
