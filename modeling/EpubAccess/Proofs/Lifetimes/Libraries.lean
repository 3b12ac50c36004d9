/-
  EpubAccess.Proofs.Lifetimes.Libraries
  ────────────────────────────────
  What becomes of a library and its containers.

  `Host.added` is the library that a container is added to, as a function of
  what was there before: the container that another one replaces gives up its
  entries, and then the publications are entered.  Adding a container leaves
  that library in the slot and closes the container that was replaced
  (`addToLibrary_later`); closing a library closes its containers and leaves
  the paths (`closeLibrary_later`).
-/
import EpubAccess.Proofs.Lifetimes.Closing
import EpubAccess.Proofs.Ownership.Libraries

namespace EpubAccess

open Stateful

/-! ## §1. Entries after a change. -/

namespace Library

variable (l : Library) (path : String) (u : String)

/-- **Publications entered one after the other**: the last one with an
identifier gets its entry, and all other entries stay. -/
theorem enterAll_last (xs : List (PackageId × Option String)) :
    (l.enterAll path xs).2.entries[u]?
      = ((xs.filter fun x => x.2 == some u).getLast?.map fun x => ⟨path, some x.1⟩).or
          l.entries[u]? := by
  induction xs generalizing l with
  | nil => rfl
  | cons x xs ih =>
    obtain ⟨k, _ | v⟩ := x
    · exact ih l
    have hrest : (l.enterAll path ((k, some v) :: xs)).2.entries[u]? = _ := ih (l.enter path v k)
    rw [hrest]
    by_cases hv : v = u
    · -- what follows may take the entry over
      have hentry : (l.enter path v k).entries[u]? = some ⟨path, some k⟩ := by simp [enter, hv]
      rw [hentry, List.filter_cons_of_pos (by simp [hv]), List.getLast?_cons]
      cases (xs.filter fun x => x.2 == some u).getLast? <;> rfl
    · have hentry : (l.enter path v k).entries[u]? = l.entries[u]? := by
        simp [enter, Std.ExtTreeMap.getElem?_insert, hv]
      rw [hentry, List.filter_cons_of_neg (by simp [hv])]

/-- Entering publications fills the entries of their identifiers and leaves
all others. -/
theorem enterAll_entry (xs : List (PackageId × Option String)) :
    ((l.enterAll path xs).2.entries[u]? = l.entries[u]? ∧ ∀ k, (k, some u) ∉ xs)
      ∨ ∃ k, (k, some u) ∈ xs ∧ (l.enterAll path xs).2.entries[u]? = some ⟨path, some k⟩ := by
  rw [enterAll_last]
  cases hlast : (xs.filter fun x => x.2 == some u).getLast? with
  | none =>
    refine .inl ⟨rfl, fun k hk => ?_⟩
    rw [List.getLast?_eq_none_iff, List.filter_eq_nil_iff] at hlast
    exact hlast _ hk (by simp)
  | some x =>
    obtain ⟨hx, hu⟩ := List.mem_filter.mp (List.mem_of_getLast? hlast)
    exact .inr ⟨x.1, by rwa [← beq_iff_eq.mp hu], rfl⟩

/-- Forgetting packages leaves the entries that name none of them. -/
theorem forget_entry (ks : List PackageId) :
    (l.forget ks).entries[u]?
      = (l.entries[u]?).filter fun e => !(e.package.any fun k => ks.contains k) := by
  simp [forget, Std.ExtTreeMap.getElem?_filter]

/-- What a library owns after publications were entered. -/
theorem mem_enterAll {xs : List (PackageId × Option String)} {k : PackageId}
    (hk : k ∈ (l.enterAll path xs).2.packageIds) : k ∈ l.packageIds ∨ ∃ u, (k, some u) ∈ xs := by
  obtain ⟨u, e, he, hek⟩ := mem_packageIds.mp hk
  rcases l.enterAll_entry path u xs with ⟨hsame, -⟩ | ⟨j, hj, hentry⟩
  · exact .inl (mem_packageIds.mpr ⟨u, e, hsame.symm.trans he, hek⟩)
  · rw [hentry, Option.some.injEq] at he
    subst he
    exact .inr ⟨u, Option.some.inj hek ▸ hj⟩

/-- Forgetting packages adds none. -/
theorem mem_of_mem_forget {ks : List PackageId} {k : PackageId}
    (hk : k ∈ (l.forget ks).packageIds) :
    k ∈ l.packageIds := by
  obtain ⟨u, e, he, hek⟩ := mem_packageIds.mp hk
  rw [forget_entry, Option.filter_eq_some_iff] at he
  exact mem_packageIds.mpr ⟨u, e, he.1, hek⟩

/-- Registering a container adds no other. -/
theorem mem_of_mem_setContainer {c j : ContainerId}
    (hj : j ∈ (l.setContainer path c).containerIds) :
    j = c ∨ j ∈ l.containerIds := by
  obtain ⟨a, ha⟩ := mem_containerIds.mp hj
  by_cases hp : path = a
  · refine .inl ?_
    simpa [setContainer, hp, eq_comm] using ha
  · refine .inr (mem_containerIds.mpr ⟨a, ?_⟩)
    simpa [setContainer, Std.ExtTreeMap.getElem?_insert, hp] using ha

/-- What makes way was registered under the path, and is another one. -/
theorem replaced?_eq_some {c j : ContainerId} (h : l.replaced? path c = some j) :
    l.containers[path]? = some j ∧ j ≠ c := by
  unfold replaced? at h
  rw [Option.filter_eq_some_iff] at h
  simpa using h

/-- The entries of paths that were read name no package. -/
theorem ofPaths_entry (paths : List (String × String)) {e : LibraryEntry}
    (h : (ofPaths paths).entries[u]? = some e) : e.package = none := by
  have hfold : ∀ m : Std.ExtTreeMap String LibraryEntry,
      (∀ (v : String) (e : LibraryEntry), m[v]? = some e → e.package = none) →
      ∀ (v : String) (e : LibraryEntry), (paths.foldl (fun (m : Std.ExtTreeMap String LibraryEntry)
        (x : String × String) => m.insert x.1 { path := x.2, package := none }) m)[v]? = some e →
        e.package = none := by
    clear h
    induction paths with
    | nil => exact fun _ hm => hm
    | cons x paths ih =>
      intro m hm
      refine ih _ fun v e he => ?_
      rw [Std.ExtTreeMap.getElem?_insert] at he
      split at he
      · rw [Option.some.injEq] at he
        rw [← he]
      · exact hm v e he
  exact hfold ∅ (fun v e he => absurd he (by simp)) u e h

/-- A library that registers no container and has no package at an entry owns
nothing. -/
theorem owns_nothing {l : Library} (hc : ∀ path : String, l.containers[path]? = none)
    (hk : ∀ (u : String) e, l.entries[u]? = some e → e.package = none) :
    l.containerIds = [] ∧ l.packageIds = [] := by
  refine ⟨List.eq_nil_iff_forall_not_mem.mpr fun j hj => ?_,
    List.eq_nil_iff_forall_not_mem.mpr fun k hk' => ?_⟩
  · obtain ⟨a, ha⟩ := mem_containerIds.mp hj
    exact absurd ((hc a).symm.trans ha) (by simp)
  · obtain ⟨u, e, he, hek⟩ := mem_packageIds.mp hk'
    exact absurd ((hk u e he).symm.trans hek) (by simp)

/-- A new library owns nothing. -/
theorem empty_owns : empty.containerIds = [] ∧ empty.packageIds = [] :=
  owns_nothing (fun _ => by simp [empty]) fun _ _ he => absurd he (by simp [empty])

/-- A library that was closed owns nothing. -/
theorem forgetObjects_owns (l : Library) :
    l.forgetObjects.containerIds = [] ∧ l.forgetObjects.packageIds = [] := by
  refine owns_nothing (fun _ => by simp [forgetObjects]) fun u e he => ?_
  rw [forgetObjects, Std.ExtTreeMap.getElem?_map, Option.map_eq_some_iff] at he
  obtain ⟨_, -, rfl⟩ := he
  rfl

/-- A library that was read owns nothing. -/
theorem ofBytes?_owns {bytes : ByteArray} {l : Library} (h : ofBytes? bytes = some l) :
    l.containerIds = [] ∧ l.packageIds = [] := by
  obtain ⟨text, -, htext⟩ := Option.bind_eq_some_iff.mp h
  obtain ⟨paths, -, rfl⟩ := Option.map_eq_some_iff.mp htext
  exact owns_nothing (fun _ => by simp [ofPaths]) fun u e he => ofPaths_entry u paths he

end Library

namespace Host

variable {S : Scope} {w w' : Host} {slot : String} {l : Library} {id : ContainerId} {c : Container}

/-! ## §2. The library after a container was added. -/

/-- The container registered, and what the one that it replaces backed forgotten. -/
def cleared (w : Host) (l : Library) (path : String) (id : ContainerId) : Library :=
  match (l.replaced? path id).bind w.containers.get? with
  | none => l.setContainer path id
  | some previous => (l.setContainer path id).forget previous.packages

/-- The library `l` after a container was added to it. -/
def added (w : Host) (l : Library) (id : ContainerId) (c : Container) : Library :=
  ((w.cleared l c.path id).enterAll c.path (w.publications c)).2

theorem cleared_containers (w : Host) (l : Library) (path : String) (id : ContainerId) :
    (w.cleared l path id).containers = l.containers.insert path id := by
  unfold cleared
  split <;> rfl

theorem added_containers (w : Host) (l : Library) (id : ContainerId) (c : Container) :
    (w.added l id c).containers = l.containers.insert c.path id :=
  (Library.enterAll_containers _ _).trans (w.cleared_containers l c.path id)

/-- The objects that a library owns are there. -/
def Stocked (w : Host) (l : Library) : Prop :=
  (∀ id ∈ l.containerIds, ∃ c, w.containers.get? id = some c)
    ∧ ∀ k ∈ l.packageIds, ∃ p, w.packages.get? k = some p

theorem Consistent.stocked (hw : Consistent w) (hl : w.slots[slot]? = some (.library l)) :
    w.Stocked l :=
  ⟨hw.ownedContainers slot _ hl, hw.ownedPackages slot _ hl⟩

theorem update_slots (slot : String) (o : Holding) (w : Host) (m : String) :
    (Host.update slot o w).2.slots[m]? = if m = slot then some o else w.slots[m]? := by
  show (w.slots.insert slot o)[m]? = _
  by_cases hm : m = slot
  · simp [hm]
  · simp [Std.ExtTreeMap.getElem?_insert, hm, Ne.symm hm]

theorem Later.updateLibrary (hw : Consistent w) (hl : w.Stocked l)
    (hs : S.slots slot (some (.library l))) :
    Later S w (Host.update slot (.library l) w).2 :=
  Later.update hw hl.1 hl.2 hs

/-- Packages are entered under the identifiers that they have for good. -/
theorem Later.publications (h : Later S w w')
    (hk : ∀ k ∈ c.packages,
      (∃ p, w.packages.get? k = some p) ∧ ∃ p', w'.packages.get? k = some p') :
    w'.publications c = w.publications c := by
  refine List.filterMap_congr fun k hkc => ?_
  obtain ⟨⟨p, hp⟩, p', hp'⟩ := hk k hkc
  rw [hp, hp', Option.map_some, Option.map_some, (h.package hp hp').metadata]

/-- The publications of a container that some slot still holds. -/
theorem Later.publications_of_owned (h : Later S w w') (hc : w.containers.get? id = some c)
    {other : String} (hid : w'.slots[other]? = some (.container id)) :
    w'.publications c = w.publications c := by
  obtain ⟨c', hc'⟩ := h.after.ownedContainers other _ hid id (by simp [Holding.containers])
  refine h.publications fun k hk => ⟨?_, ?_⟩
  · obtain ⟨p, hp, -⟩ := h.before.members id c hc k hk
    exact ⟨p, hp⟩
  · obtain ⟨p, hp, -⟩ := h.after.members id c' hc' k ((h.container hc hc').mem hk)
    exact ⟨p, hp⟩

/-- A publication of a container is one of its packages. -/
theorem mem_publications {k : PackageId} {u : Option String} :
    (k, u) ∈ w.publications c ↔
      k ∈ c.packages ∧ ∃ p, w.packages.get? k = some p ∧ p.metadata.uniqueId = u := by
  unfold Host.publications
  rw [List.mem_filterMap]
  constructor
  · rintro ⟨j, hj, h⟩
    obtain ⟨p, hp, heq⟩ := Option.map_eq_some_iff.mp h
    rw [Prod.mk.injEq] at heq
    exact ⟨heq.1 ▸ hj, p, heq.1 ▸ hp, heq.2⟩
  · rintro ⟨hk, p, hp, hu⟩
    exact ⟨k, hk, by rw [hp, Option.map_some, hu]⟩

/-- A container registered, with what the library owned. -/
theorem Stocked.setContainer (h : w.Stocked l) {path : String}
    (hc : ∃ c, w.containers.get? id = some c) : w.Stocked (l.setContainer path id) := by
  refine ⟨fun j hj => ?_, h.2⟩
  rcases l.mem_of_mem_setContainer path hj with rfl | hj
  · exact hc
  · exact h.1 j hj

/-- The containers given up, and the packages kept. -/
theorem Stocked.forgetContainers (h : w.Stocked l) : w.Stocked l.forgetContainers := by
  refine ⟨fun j hj => ?_, h.2⟩
  obtain ⟨a, ha⟩ := Library.mem_containerIds.mp hj
  exact absurd ha (by simp [Library.forgetContainers])

theorem Stocked.forget (h : w.Stocked l) (ks : List PackageId) : w.Stocked (l.forget ks) :=
  ⟨h.1, fun k hk => h.2 k (l.mem_of_mem_forget hk)⟩

/-- **The container that another one replaces makes way**: it is closed, and
the slot holds the library without what it backed. -/
theorem retire_later {path other : String} {previous : ContainerId} (hw : Consistent w)
    (hl : w.slots[slot]? = some (.library l)) (hid : w.slots[other]? = some (.container id))
    (hprevious : l.replaced? path id = some previous) (hclosing : S.closing previous)
    (hs : ∀ l, S.slots slot (some (.library l))) :
    (retire slot (l.setContainer path id) previous w).1 = w.cleared l path id
      ∧ Later S w (retire slot (l.setContainer path id) previous w).2
      ∧ (∀ m : String, (retire slot (l.setContainer path id) previous w).2.slots[m]?
          = if m = slot then some (.library (w.cleared l path id)) else w.slots[m]?)
      ∧ (retire slot (l.setContainer path id) previous w).2.standing? previous = none := by
  obtain ⟨b, hb⟩ := (hw.stocked hl).1 previous
    (Library.mem_containerIds.mpr ⟨path, (l.replaced?_eq_some path hprevious).1⟩)
  have hcleared : w.cleared l path id = (l.setContainer path id).forget b.packages := by
    unfold cleared
    rw [hprevious, Option.bind_some, hb]
  rw [hcleared]
  unfold retire
  rw [get_bind_apply, hb]
  simp only [bind_apply, pure_apply]
  have hemit : Later S w (through (Gateway.emit (.containerReplaced b.path)) w).2 := .emit hw _
  have hslots0 : (through (Gateway.emit (.containerReplaced b.path)) w).2.slots = w.slots := rfl
  generalize (through (Gateway.emit (.containerReplaced b.path)) w).2 = w0 at hemit hslots0 ⊢
  obtain ⟨hclose, hst⟩ := closeContainerIfOpen_later (S := S) hemit.after hclosing
  have hslots1 := (closeContainerIfOpen_later (S := { S with slots := fun _ _ => False })
    hemit.after hclosing).1.sameSlots
  rw [hslots0] at hslots1
  generalize (closeContainerIfOpen previous w0).2 = w1 at hclose hst hslots1 ⊢
  -- the slots still own what the library is made of
  have hstocked : w1.Stocked ((l.setContainer path id).forget b.packages) := by
    have hl1 := hclose.after.stocked ((hslots1 slot).trans hl)
    have hid1 := hclose.after.ownedContainers other _ ((hslots1 other).trans hid) id
      (by simp [Holding.containers])
    exact (hl1.setContainer hid1).forget b.packages
  have hupdate : Later S w1
      (update slot (.library ((l.setContainer path id).forget b.packages)) w1).2 :=
    .updateLibrary hclose.after hstocked (hs _)
  have hdrop : Later S _ (dropContainer previous
      (update slot (.library ((l.setContainer path id).forget b.packages)) w1).2).2 :=
    dropContainer_later previous hupdate.after
  have hslots2 := (dropContainer_later (S := { S with slots := fun _ _ => False })
    previous hupdate.after).sameSlots
  refine ⟨trivial, ((hemit.trans hclose).trans hupdate).trans hdrop, fun m => ?_, ?_⟩
  · rw [hslots2, update_slots, hslots1]
  · have hgone : w1.Gone previous := by
      refine ⟨?_, hst⟩
      exact Nat.lt_of_lt_of_le (hw.containerIds previous b hb)
        (Nat.le_trans hemit.containersNext hclose.containersNext)
    exact (hdrop.gone (hupdate.gone hgone)).2

/-! ## §3. Adding and closing. -/

/-- Some events, one after the other, are noted at the gateway alone. -/
theorem emits_apply {α : Type} (f : α → Event) (xs : List α) (w : Host) :
    ∃ g : Gateway, g.engine = w.gateway.engine
      ∧ (xs.forM (fun x => through (Gateway.emit (f x))) w).2 = { w with gateway := g } := by
  induction xs generalizing w with
  | nil => exact ⟨w.gateway, rfl, rfl⟩
  | cons x xs ih =>
    obtain ⟨g, hg, heq⟩ := ih (through (Gateway.emit (f x)) w).2
    exact ⟨g, hg, heq⟩

/-- The publications of a container entered, once the way is free. -/
theorem enter_later (slot : String) (c : Container) (hw : Consistent w) (hl : w.Stocked l)
    (hs : ∀ l, S.slots slot (some (.library l))) :
    let w' := ((do
        let w ← get
        let (count, entered) := l.enterAll c.path (w.publications c)
        (w.unidentified c).forM fun h => through (Gateway.emit (.packageWithoutId h c.path))
        update slot (.library entered)
        l.packageIds.forM dropPackage
        pure count : StateM Host Nat) w).2
    Later S w w' ∧ ∀ m : String, w'.slots[m]? = if m = slot then
      some (.library (l.enterAll c.path (w.publications c)).2) else w.slots[m]? := by
  simp only [bind_apply, get_apply, pure_apply]
  have hentered : w.Stocked (l.enterAll c.path (w.publications c)).2 := by
    refine ⟨fun j hj => hl.1 j ?_, fun k hk => ?_⟩
    · unfold Library.containerIds at hj ⊢
      rwa [Library.enterAll_containers] at hj
    · rcases l.mem_enterAll c.path hk with hk | ⟨u, hu⟩
      · exact hl.2 k hk
      · obtain ⟨-, p, hp, -⟩ := mem_publications.mp hu
        exact ⟨p, hp⟩
  generalize (l.enterAll c.path (w.publications c)).2 = entered at hentered ⊢
  obtain ⟨g, hg, hemits⟩ := emits_apply (.packageWithoutId · c.path) (w.unidentified c) w
  rw [hemits]
  have hnoted : Later S w { w with gateway := g } := .same hw (Nat.le_of_eq (by rw [hg]))
  have hupdate : Later S _ (update slot (.library entered) { w with gateway := g }).2 :=
    .updateLibrary hnoted.after hentered (hs _)
  have hdrop : Later S _ _ := dropPackages_later l.packageIds hupdate.after
  have hslots := (dropPackages_later (S := { S with slots := fun _ _ => False })
    l.packageIds hupdate.after).sameSlots
  exact ⟨(hnoted.trans hupdate).trans hdrop, fun m => (hslots m).trans (update_slots ..)⟩

/-- **A container added to a library**: the library in the slot becomes the
one told by `added`, and what was replaced does not stand. -/
theorem addToLibrary_later {other : String} (hw : Consistent w)
    (hl : w.slots[slot]? = some (.library l)) (hid : w.slots[other]? = some (.container id))
    (hc : w.containers.get? id = some c)
    (hclosing : ∀ previous, l.replaced? c.path id = some previous → S.closing previous)
    (hs : S.slots slot (some (.library (w.added l id c)))) :
    Later S w (addToLibrary slot l id w).2
      ∧ (∀ m : String, (addToLibrary slot l id w).2.slots[m]?
          = if m = slot then some (.library (w.added l id c)) else w.slots[m]?)
      ∧ ∀ previous, l.replaced? c.path id = some previous →
          (addToLibrary slot l id w).2.standing? previous = none := by
  have hne : other ≠ slot := by
    rintro rfl
    exact absurd (hl.symm.trans hid) (by simp)
  -- on the way the slot holds another library
  let busy : Scope := { S with slots := fun m _ => m = slot }
  have hrestate : ∀ w', Later busy w w' → (∀ m : String, w'.slots[m]?
      = if m = slot then some (.library (w.added l id c)) else w.slots[m]?) → Later S w w' := by
    intro w' h hslots
    refine Later.restateSlots h fun m => ?_
    rw [hslots]
    split
    · next hm => exact .inr (hm ▸ hs)
    · exact .inl rfl
  unfold addToLibrary
  rw [get_bind_apply, hc]
  dsimp only
  cases hp : l.replaced? c.path id with
  | none =>
    have hcleared : w.cleared l c.path id = l.setContainer c.path id := by
      unfold cleared
      rw [hp, Option.bind_none]
    have hstocked : w.Stocked (l.setContainer c.path id) := (hw.stocked hl).setContainer ⟨c, hc⟩
    obtain ⟨hlater, hslots⟩ := enter_later (S := busy) slot c hw hstocked fun _ => rfl
    rw [← hcleared] at hlater hslots ⊢
    exact ⟨hrestate _ hlater hslots, hslots, fun _ h => absurd h (by simp)⟩
  | some previous =>
    obtain ⟨hresult, hretire, hslots, hst⟩ := retire_later (S := busy) hw hl hid hp
      (hclosing previous hp) fun _ => rfl
    dsimp only
    rw [bind_apply, hresult]
    generalize (retire slot (l.setContainer c.path id) previous w).2 = w1 at hretire hslots hst ⊢
    have hl1 : w1.slots[slot]? = some (.library (w.cleared l c.path id)) := by
      rw [hslots, if_pos rfl]
    have hid1 : w1.slots[other]? = some (.container id) := by
      rw [hslots, if_neg hne, hid]
    obtain ⟨hlater, hslots'⟩ := enter_later (S := busy) slot c hretire.after
      (hretire.after.stocked hl1) fun _ => rfl
    -- the packages that are entered were there all the time
    rw [hretire.publications_of_owned hc hid1] at hslots'
    have hall : ∀ m : String,
        _ = if m = slot then some (.library (w.added l id c)) else w.slots[m]? :=
      fun m => (hslots' m).trans (by
        split
        · rfl
        · next hm => rw [hslots, if_neg hm])
    refine ⟨hrestate _ (hretire.trans hlater) hall, hall, fun j hj => ?_⟩
    rw [Option.some.injEq] at hj
    subst hj
    have hprevious := (hw.stocked hl).1 previous
      (Library.mem_containerIds.mpr ⟨c.path, (l.replaced?_eq_some c.path hp).1⟩)
    obtain ⟨b, hb⟩ := hprevious
    have hgone : w1.Gone previous :=
      ⟨Nat.lt_of_lt_of_le (hw.containerIds previous b hb) hretire.containersNext, hst⟩
    exact (hlater.gone hgone).2

/-- A container closed and given up. -/
theorem closeAndDrop_later (hw : Consistent w) (hs : S.closing id) :
    Later S w (closeAndDrop id w).2
      ∧ (id < w.containers.next → (closeAndDrop id w).2.Gone id) := by
  obtain ⟨hclose, hst⟩ := closeContainerIfOpen_later hw hs
  have hdrop : Later S _ (dropContainer id (closeContainerIfOpen id w).2).2 :=
    dropContainer_later id hclose.after
  exact ⟨hclose.trans hdrop, fun hid =>
    hdrop.gone ⟨Nat.lt_of_lt_of_le hid hclose.containersNext, hst⟩⟩

/-- Containers closed and given up, one after the other. -/
theorem closeAndDropAll_later (ids : List ContainerId) (hw : Consistent w)
    (hids : ∀ id ∈ ids, id < w.containers.next) (hs : ∀ id ∈ ids, S.closing id) :
    Later S w (ids.forM closeAndDrop w).2 ∧ ∀ id ∈ ids, (ids.forM closeAndDrop w).2.Gone id := by
  induction ids generalizing w with
  | nil => exact ⟨.refl S hw, fun _ h => absurd h (by simp)⟩
  | cons id ids ih =>
    obtain ⟨hone, hself⟩ := closeAndDrop_later hw (hs id (List.mem_cons_self ..))
    obtain ⟨hrest, hgone⟩ := ih hone.after
      (fun j hj => Nat.lt_of_lt_of_le (hids j (List.mem_cons_of_mem _ hj)) hone.containersNext)
      fun j hj => hs j (List.mem_cons_of_mem _ hj)
    refine ⟨hone.trans hrest, fun j hj => ?_⟩
    rcases List.mem_cons.mp hj with rfl | hj
    · exact hrest.gone (hself (hids j (List.mem_cons_self ..)))
    · exact hgone j hj

/-- **A library closed**: its containers do not stand, and it keeps the paths
of its publications. -/
theorem closeLibrary_later (hw : Consistent w) (hl : w.slots[slot]? = some (.library l))
    (hclosing : ∀ id ∈ l.containerIds, S.closing id)
    (hs : S.slots slot (some (.library l.forgetObjects))) :
    Later S w (closeLibrary slot l w).2
      ∧ (∀ m : String, (closeLibrary slot l w).2.slots[m]?
          = if m = slot then some (.library l.forgetObjects) else w.slots[m]?)
      ∧ ∀ id ∈ l.containerIds, (closeLibrary slot l w).2.standing? id = none := by
  -- on the way the slot holds the library that forgot its containers only
  let busy : Scope := { S with slots := fun m _ => m = slot }
  have hforgotten : ∀ w : Host, w.Stocked l.forgetObjects := fun w => by
    obtain ⟨hc, hk⟩ := l.forgetObjects_owns
    exact ⟨by simp [hc], by simp [hk]⟩
  have hstocked := (hw.stocked hl).forgetContainers
  have hids : ∀ id ∈ l.containerIds, id < w.containers.next := fun id hid => by
    obtain ⟨c, hc⟩ := (hw.stocked hl).1 id hid
    exact hw.containerIds id c hc
  unfold closeLibrary closeLibraryIn
  simp only [bind_apply, modify_apply]
  have hnote : Later busy w { w with libraryClosed := true } := .same hw (Nat.le_refl _)
  have hforget : Later busy _
      (update slot (.library l.forgetContainers) { w with libraryClosed := true }).2 :=
    .updateLibrary hnote.after hstocked rfl
  have hslots1 : ∀ m : String, (update slot (.library l.forgetContainers)
      { w with libraryClosed := true }).2.slots[m]?
      = if m = slot then some (.library l.forgetContainers) else w.slots[m]? := update_slots _ _ _
  generalize (update slot (.library l.forgetContainers) { w with libraryClosed := true }).2 = w1
    at hforget hslots1 ⊢
  have hids1 : ∀ id ∈ l.containerIds, id < w1.containers.next := fun id hid =>
    Nat.lt_of_lt_of_le (hids id hid) hforget.containersNext
  obtain ⟨hclose, hgone⟩ :=
    closeAndDropAll_later (S := busy) l.containerIds hforget.after hids1 hclosing
  have hslots2 := (closeAndDropAll_later (S := { busy with slots := fun _ _ => False })
    l.containerIds hforget.after hids1 hclosing).1.sameSlots
  generalize (l.containerIds.forM closeAndDrop w1).2 = w2 at hclose hgone hslots2 ⊢
  have hupdate : Later busy w2 (update slot (.library l.forgetObjects) w2).2 :=
    .updateLibrary hclose.after (hforgotten w2) rfl
  have hdrop : Later busy _
      (l.packageIds.forM dropPackage (update slot (.library l.forgetObjects) w2).2).2 :=
    dropPackages_later l.packageIds hupdate.after
  have hslots3 := (dropPackages_later (S := { busy with slots := fun _ _ => False })
    l.packageIds hupdate.after).sameSlots
  have hslots : ∀ m : String, (l.packageIds.forM dropPackage
      (update slot (.library l.forgetObjects) w2).2).2.slots[m]?
      = if m = slot then some (.library l.forgetObjects) else w.slots[m]? := fun m => by
    rw [hslots3, update_slots, hslots2, hslots1]
    split <;> rfl
  refine ⟨Later.restateSlots ((((hnote.trans hforget).trans hclose).trans hupdate).trans hdrop)
    fun m => ?_, hslots, fun id hid => (hdrop.gone (hupdate.gone (hgone id hid))).2⟩
  rw [hslots]
  split
  · next hm => exact .inr (hm ▸ hs)
  · exact .inl rfl

end Host

end EpubAccess
