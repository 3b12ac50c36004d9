/-
  EpubAccess.Proofs.Libraries.Counting
  ────────────────────────────────
  What the number that an addition to a library returns counts.

    • `addToLibrary_count` — every package of the container that has an
      identifier, also when another one takes its entry at once,
    • `mem_keys_backedBy_added` — an identifier is at an entry that the container
      backs exactly if one of its packages has it,
    • `addition_counts_named` — so the number is that of the entries exactly if
      no two packages have the same identifier.
-/
import Mathlib.Data.List.Dedup
import EpubAccess.Proofs.Libraries.Adding

namespace EpubAccess

open Stateful

/-! ## §1. Entries with some packages. -/

namespace Library

/-- The entries whose package is among some packages, with their identifiers. -/
def backedBy (l : Library) (ks : List PackageId) : List (String × LibraryEntry) :=
  l.entries.toList.filter fun x => x.2.package.any ks.contains

theorem mem_backedBy {l : Library} {ks : List PackageId} {u : String} {e : LibraryEntry} :
    (u, e) ∈ l.backedBy ks ↔ l.entries[u]? = some e ∧ ∃ k ∈ ks, e.package = some k := by
  rw [backedBy, List.mem_filter, Std.ExtTreeMap.mem_toList_iff_getElem?_eq_some]
  refine and_congr_right fun _ => ?_
  cases e.package with
  | none => simp
  | some k => simp

theorem mem_keys_backedBy {l : Library} {ks : List PackageId} {u : String} :
    u ∈ (l.backedBy ks).map Prod.fst ↔
      ∃ e, l.entries[u]? = some e ∧ ∃ k ∈ ks, e.package = some k := by
  rw [List.mem_map]
  constructor
  · rintro ⟨⟨v, e⟩, he, rfl⟩
    exact ⟨e, mem_backedBy.mp he⟩
  · rintro ⟨e, he⟩
    exact ⟨(u, e), mem_backedBy.mpr he, rfl⟩

/-- An identifier has one entry. -/
theorem nodup_keys_backedBy (l : Library) (ks : List PackageId) :
    ((l.backedBy ks).map Prod.fst).Nodup :=
  (OrderedMap.nodup_keys l.entries).sublist (List.filter_sublist.map _)

/-- The count goes up once for each package with an identifier. -/
theorem enterAll_count (l : Library) (path : String) (xs : List (PackageId × Option String)) :
    (l.enterAll path xs).1 = (xs.filterMap Prod.snd).length := by
  induction xs generalizing l with
  | nil => rfl
  | cons x xs ih =>
    obtain ⟨k, _ | u⟩ := x
    · exact ih l
    · show ((l.enter path u k).enterAll path xs).1 + 1 = _
      rw [ih]
      rfl

end Library

namespace Host

variable {w : Host} {slot other u : String} {l : Library} {id : ContainerId} {c : Container}

/-! ## §2. The container after it was added. -/

/-- The identifiers that the packages of a container have, in the order of the
packages. -/
def identifiers (w : Host) (c : Container) : List String :=
  (w.publications c).filterMap Prod.snd

theorem mem_identifiers : u ∈ w.identifiers c ↔
    ∃ k ∈ c.packages, ∃ p, w.packages.get? k = some p ∧ p.metadata.uniqueId = some u := by
  rw [identifiers, List.mem_filterMap]
  constructor
  · rintro ⟨⟨k, v⟩, hk, rfl⟩
    exact ⟨k, mem_publications.mp hk⟩
  · rintro ⟨k, hk⟩
    exact ⟨(k, some u), mem_publications.mpr hk, rfl⟩

/-- **The number returned** is that of the packages with an identifier. -/
theorem addToLibrary_count (hw : Consistent w) (hl : w.slots[slot]? = some (.library l))
    (hid : w.slots[other]? = some (.container id)) (hc : w.containers.get? id = some c) :
    (addToLibrary slot l id w).1 = (w.identifiers c).length := by
  unfold addToLibrary
  rw [get_bind_apply, hc]
  dsimp only
  cases hr : l.replaced? c.path id with
  | none => exact Library.enterAll_count _ c.path (w.publications c)
  | some j =>
    obtain ⟨hresult, hretire, hslots, -⟩ := retire_later (S := .any) hw hl hid hr trivial
      fun _ => trivial
    dsimp only
    rw [bind_apply]
    generalize (retire slot (l.setContainer c.path id) j w).2 = w1 at hretire hslots ⊢
    have hne : other ≠ slot := by
      rintro rfl
      exact absurd (hl.symm.trans hid) (by simp)
    have hid1 : w1.slots[other]? = some (.container id) := by rw [hslots, if_neg hne, hid]
    rw [identifiers, ← hretire.publications_of_owned hc hid1]
    exact Library.enterAll_count _ c.path (w1.publications c)

/-- **The entries that the container backs** are those of its identifiers. -/
theorem mem_keys_backedBy_added (hc : w.containers.get? id = some c) (hb : Backed w l) :
    u ∈ ((w.added l id c).backedBy c.packages).map Prod.fst ↔ u ∈ w.identifiers c := by
  rw [Library.mem_keys_backedBy, mem_identifiers]
  constructor
  · rintro ⟨e, he, k, hk, hek⟩
    exact ⟨k, hk, (hb.added hc).identified u e k he hek⟩
  · rintro ⟨k, hk, p, hp, hu⟩
    have hnamed : k ∈ w.packagesNamed c u := List.mem_filter.mpr ⟨hk, by simp [hp, hu]⟩
    obtain ⟨j, hj⟩ : ∃ j, (w.packagesNamed c u).getLast? = some j :=
      ⟨_, List.getLast?_eq_some_getLast (List.ne_nil_of_mem hnamed)⟩
    exact ⟨_, added_entry_of_named hj, j,
      (List.mem_filter.mp (List.mem_of_getLast? hj)).1, rfl⟩

theorem length_backedBy_added (hc : w.containers.get? id = some c) (hb : Backed w l) :
    ((w.added l id c).backedBy c.packages).length = (w.identifiers c).dedup.length := by
  have hperm : (((w.added l id c).backedBy c.packages).map Prod.fst).Perm (w.identifiers c).dedup :=
    (List.perm_ext_iff_of_nodup (Library.nodup_keys_backedBy _ _) (List.nodup_dedup _)).mpr
      fun u => by rw [mem_keys_backedBy_added hc hb, List.mem_dedup]
  rw [← hperm.length_eq, List.length_map]

/-- The identifier of a package. -/
def identifier? (w : Host) (k : PackageId) : Option String :=
  (w.packages.get? k).bind fun p => p.metadata.uniqueId

/-- A package at some entry is at that of its identifier. -/
theorem Backed.hasPackage_iff (h : Backed w l) {k : PackageId} :
    l.hasPackage k = true ↔ ∃ u e, l.entries[u]? = some e ∧ e.package = some k
      ∧ w.identifier? k = some u := by
  rw [Library.hasPackage, OrderedMap.any_iff]
  constructor
  · rintro ⟨u, e, he, hk⟩
    have hek : e.package = some k := by simpa using hk
    obtain ⟨p, hp, hu⟩ := h.identified u e k he hek
    exact ⟨u, e, he, hek, by rw [identifier?, hp, Option.bind_some, hu]⟩
  · rintro ⟨u, e, he, hek, -⟩
    exact ⟨u, e, he, by simp [hek]⟩

/-- **Packages that can be looked up** are as many as the entries that they back. -/
theorem Backed.length_filter_hasPackage (h : Backed w l) {ks : List PackageId} (hks : ks.Nodup) :
    (ks.filter l.hasPackage).length = (l.backedBy ks).length := by
  have hidentifiers : ((ks.filter l.hasPackage).map w.identifier?).Nodup := by
    refine (hks.filter _).map_on fun j hj k hk heq => ?_
    -- two packages with one identifier would be at one entry
    obtain ⟨u, e, he, hej, hu⟩ := h.hasPackage_iff.mp (List.mem_filter.mp hj).2
    obtain ⟨v, d, hd, hdk, hv⟩ := h.hasPackage_iff.mp (List.mem_filter.mp hk).2
    obtain rfl : u = v := Option.some.inj (hu.symm.trans (heq.trans hv))
    obtain rfl : e = d := Option.some.inj (he.symm.trans hd)
    exact Option.some.inj (hej.symm.trans hdk)
  have hkeys : (((l.backedBy ks).map Prod.fst).map some).Nodup :=
    (Library.nodup_keys_backedBy l ks).map (fun _ _ => Option.some.inj)
  have hsame : ∀ o, o ∈ (ks.filter l.hasPackage).map w.identifier? ↔
      o ∈ ((l.backedBy ks).map Prod.fst).map some := by
    intro o
    rw [List.mem_map, List.mem_map]
    constructor
    · rintro ⟨k, hk, rfl⟩
      obtain ⟨hk, hhas⟩ := List.mem_filter.mp hk
      obtain ⟨u, e, he, hek, hu⟩ := h.hasPackage_iff.mp hhas
      exact ⟨u, Library.mem_keys_backedBy.mpr ⟨e, he, k, hk, hek⟩, hu.symm⟩
    · rintro ⟨u, hu, rfl⟩
      obtain ⟨e, he, k, hk, hek⟩ := Library.mem_keys_backedBy.mp hu
      obtain ⟨p, hp, hpu⟩ := h.identified u e k he hek
      have huk : w.identifier? k = some u := by rw [identifier?, hp, Option.bind_some, hpu]
      exact ⟨k, List.mem_filter.mpr ⟨hk, h.hasPackage_iff.mpr ⟨u, e, he, hek, huk⟩⟩, huk⟩
  have hlength := ((List.perm_ext_iff_of_nodup hidentifiers hkeys).mpr hsame).length_eq
  simpa using hlength

/-! ## §3. What the number counts. -/

theorem run_addToLibrary_count (hw : Consistent w) (hl : w.slots[slot]? = some (.library l))
    (hid : w.slots[other]? = some (.container id)) (hc : w.containers.get? id = some c) :
    (run (.addToLibrary slot other) w).1 = .added (w.identifiers c).length := by
  rw [run_addToLibrary_apply hl hid hc, addToLibrary_count hw hl hid hc]

/-- **An addition counts the packages that have an identifier.** Add any container
to any library, after any run. The entries that the container backs
afterwards, and its packages that can be looked up, are as many as its
packages have different identifiers; so the number returned is theirs exactly
if no two of its packages share one. -/
theorem addition_counts_named (cs : List Command) (slot other : String) (l : Library)
    (id : ContainerId) (c : Container)
    (hl : (after cs fresh).slots[slot]? = some (.library l))
    (hid : (after cs fresh).slots[other]? = some (.container id))
    (hc : (after cs fresh).containers.get? id = some c) :
    let w := after cs fresh
    let r := run (.addToLibrary slot other) w
    ∃ l', r.2.slots[slot]? = some (.library l')
      ∧ r.1 = .added (w.identifiers c).length
      ∧ (l'.backedBy c.packages).length = (w.identifiers c).dedup.length
      ∧ (c.packages.filter l'.hasPackage).length = (l'.backedBy c.packages).length
      ∧ (r.1 = .added (l'.backedBy c.packages).length ↔ (w.identifiers c).Nodup) := by
  intro w r
  have hw : Consistent w := consistent_after cs
  have hb : Backed w l := librariesBacked_after cs slot l hl
  have hreply : r.1 = .added (w.identifiers c).length := run_addToLibrary_count hw hl hid hc
  refine ⟨w.added l id c, run_addToLibrary_slot hw hl hid hc, hreply, length_backedBy_added hc hb,
    (hb.added hc).length_filter_hasPackage (hw.once id c hc), ?_⟩
  rw [hreply, length_backedBy_added hc hb, Answer.added.injEq]
  constructor
  · intro hlength
    exact List.dedup_eq_self.mp ((List.dedup_sublist _).eq_of_length hlength.symm)
  · intro hnodup
    rw [List.dedup_eq_self.mpr hnodup]

/-- A container in a slot beside a new library, and the identifiers that it has. -/
theorem holds_of_sample {w : Host} (us : List String)
    (h : (w.slots["library"]?.bind Holding.library?).isSome = true
      ∧ w.slots["first"]?.bind Holding.container? = some 0
      ∧ (w.containers.get? 0).map w.identifiers = some us) :
    ∃ l c, w.slots["library"]? = some (.library l) ∧ w.slots["first"]? = some (.container 0)
      ∧ w.containers.get? 0 = some c ∧ w.identifiers c = us := by
  obtain ⟨hlibrary, hid, hcontainer⟩ := h
  obtain ⟨l, hl⟩ := Option.isSome_iff_exists.mp hlibrary
  obtain ⟨c, hc, hus⟩ := Option.map_eq_some_iff.mp hcontainer
  exact ⟨l, c, Holding.eq_library hl, Holding.eq_container hid, hc, hus⟩

theorem addition_counts_named_sample :
    let w := after (sampleLibrary.take 3) fresh
    let r := run (.addToLibrary "library" "first") w
    ∃ l' c, w.containers.get? 0 = some c ∧ r.2.slots["library"]? = some (.library l')
      ∧ w.identifiers c = ["u"] ∧ r.1 = .added (l'.backedBy c.packages).length := by
  obtain ⟨l, c, hl, hid, hc, hus⟩ := holds_of_sample (w := after (sampleLibrary.take 3) fresh)
    ["u"] (by decide +kernel)
  obtain ⟨l', hl', -, -, -, hexact⟩ :=
    addition_counts_named (sampleLibrary.take 3) "library" "first"
    l 0 c hl hid hc
  exact ⟨l', c, hc, hl', hus, hexact.mpr (by rw [hus]; decide)⟩

/-- An archive with two packages of one identifier, opened beside a new library. -/
def sampleRenditions : List Command :=
  [.register "a" { identifiedArchive "u" with
      packages := (identifiedArchive "u").packages ++ (identifiedArchive "u").packages },
    .openContainer "a" .default "first", .newLibrary "library"]

/-- Two packages are counted, and there is one entry. -/
theorem renditions_counted_twice :
    let w := after sampleRenditions fresh
    let r := run (.addToLibrary "library" "first") w
    ∃ l' c, w.containers.get? 0 = some c ∧ r.2.slots["library"]? = some (.library l')
      ∧ r.1 = .added 2 ∧ (l'.backedBy c.packages).length = 1
      ∧ (c.packages.filter l'.hasPackage).length = 1 := by
  have hw := consistent_after sampleRenditions
  have hbacked := librariesBacked_after sampleRenditions
  obtain ⟨l, c, hl, hid, hc, hus⟩ := holds_of_sample (w := after sampleRenditions fresh)
    ["u", "u"] (by decide +kernel)
  generalize after sampleRenditions fresh = w at hw hbacked hl hid hc hus ⊢
  have hentries : ((w.added l 0 c).backedBy c.packages).length = 1 := by
    rw [length_backedBy_added hc (hbacked _ l hl), hus]
    rfl
  refine ⟨w.added l 0 c, c, hc, run_addToLibrary_slot hw hl hid hc, ?_, hentries, ?_⟩
  · rw [run_addToLibrary_count hw hl hid hc, hus]
    rfl
  · rw [((hbacked _ l hl).added hc).length_filter_hasPackage (hw.once 0 c hc), hentries]

end Host

end EpubAccess
