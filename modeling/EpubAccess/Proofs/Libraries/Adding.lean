/-
  EpubAccess.Proofs.Libraries.Adding
  ────────────────────────────────
  What adding a container to a library changes, and what it leaves alone.

  Of the library the path of the container changes and the entries of the
  identifiers that its packages have (`Host.added_entry_of_named`).  Any other
  entry stays unless its package belongs to the container that makes way
  (`Host.added_entry_of_other`).

  Of the host one container changes, and its packages: `Host.Confined id ks`
  relates two hosts that differ in nothing else in the pools.  The container
  that makes way is closed and given up within these bounds
  (`retire_confined`).  Entering publications takes packages from entries, but
  each of them is in the list of a container, so none goes away
  (`enter_keeps`).  `Host.adding_changes_only` is the frame of the whole.
-/
import EpubAccess.Proofs.Libraries.Backing
import EpubAccess.Proofs.Lifetimes.Exclusive

namespace EpubAccess

open Stateful

namespace Host

variable {w : Host} {slot u : String} {l : Library} {id j : ContainerId} {b c : Container}
  {ks : List PackageId}

/-! ## §1. The entries of a library that was added to. -/

/-- The packages of a container that have an identifier, in their order. -/
def packagesNamed (w : Host) (c : Container) (u : String) : List PackageId :=
  c.packages.filter fun k => (w.packages.get? k).any fun p => p.metadata.uniqueId == some u

/-- The container `j` makes way when `id` is added under the path. -/
def MakesWay (l : Library) (path : String) (id j : ContainerId) : Prop :=
  l.containers[path]? = some j ∧ j ≠ id

theorem replaced?_iff {path : String} : l.replaced? path id = some j ↔ MakesWay l path id j := by
  unfold Library.replaced? MakesWay
  rw [Option.filter_eq_some_iff]
  simp

/-- The entry of an identifier has a package of the container that makes way for
`id`, which is added under the path. -/
def Displaced (w : Host) (l : Library) (path : String) (id : ContainerId) (u : String) : Prop :=
  ∃ e k j b, l.entries[u]? = some e ∧ e.package = some k ∧ MakesWay l path id j
    ∧ w.containers.get? j = some b ∧ k ∈ b.packages

/-- The publications with an identifier are the packages that have it. -/
theorem publications_named (w : Host) (c : Container) (u : String) :
    ((w.publications c).filter fun x => x.2 == some u).map Prod.fst = w.packagesNamed c u := by
  unfold publications packagesNamed
  induction c.packages with
  | nil => rfl
  | cons k ks ih =>
    cases hp : w.packages.get? k with
    | none =>
      rw [List.filterMap_cons_none (by rw [hp]; rfl), List.filter_cons_of_neg (by simp [hp]), ih]
    | some p =>
      rw [List.filterMap_cons_some (by rw [hp]; rfl)]
      by_cases hu : p.metadata.uniqueId = some u
      · rw [List.filter_cons_of_pos (by simp [hu]), List.filter_cons_of_pos (by simp [hp, hu]),
          List.map_cons, ih]
      · rw [List.filter_cons_of_neg (by simpa using hu),
          List.filter_cons_of_neg (by simpa [hp] using hu), ih]

/-- An entry is that of the last package with the identifier, or the one that is
left when the way is free. -/
theorem added_entry (w : Host) (l : Library) (id : ContainerId) (c : Container) (u : String) :
    (w.added l id c).entries[u]?
      = ((w.packagesNamed c u).getLast?.map fun k => ⟨c.path, some k⟩).or
          (w.cleared l c.path id).entries[u]? := by
  unfold added
  rw [Library.enterAll_last, ← publications_named, List.getLast?_map, Option.map_map]
  rfl

theorem added_entry_of_named {k : PackageId} (hk : (w.packagesNamed c u).getLast? = some k) :
    (w.added l id c).entries[u]? = some ⟨c.path, some k⟩ := by
  rw [added_entry, hk]
  rfl

/-- What is at an entry once the way is free. -/
theorem cleared_entry {path : String} (hb : Backed w l) :
    (Displaced w l path id u → (w.cleared l path id).entries[u]? = none)
      ∧ (¬ Displaced w l path id u → (w.cleared l path id).entries[u]? = l.entries[u]?) := by
  cases hr : l.replaced? path id with
  | none =>
    rw [cleared_entries_of_none hr]
    refine ⟨fun ⟨_, _, j, _, _, _, hj, _⟩ => ?_, fun _ => rfl⟩
    rw [← replaced?_iff, hr] at hj
    exact absurd hj (by simp)
  | some j =>
    have hj := replaced?_iff.mp hr
    obtain ⟨b, hjb, -⟩ := hb.registered path j hj.1
    rw [cleared_entry_of_some hr hjb]
    constructor
    · rintro ⟨e, k, i, d, he, hek, hi, hd, hk⟩
      -- one container only is registered under the path
      obtain rfl : i = j := Option.some.inj (hi.1.symm.trans hj.1)
      rw [hjb, Option.some.injEq] at hd
      rw [he, Option.filter_eq_none_iff]
      simp [hek, hd, hk]
    · intro hnot
      cases he : l.entries[u]? with
      | none => rfl
      | some e =>
        rw [Option.filter_eq_some_iff]
        refine ⟨rfl, ?_⟩
        cases hek : e.package with
        | none => rfl
        | some k =>
          have hk : k ∉ b.packages := fun hk => hnot ⟨e, k, j, b, he, hek, hj, hjb, hk⟩
          simpa using hk

/-- **An identifier that no package of the container has.** -/
theorem added_entry_of_other (hb : Backed w l) (hu : w.packagesNamed c u = []) :
    (Displaced w l c.path id u → (w.added l id c).entries[u]? = none)
      ∧ (¬ Displaced w l c.path id u → (w.added l id c).entries[u]? = l.entries[u]?) := by
  have hentry : (w.added l id c).entries[u]? = (w.cleared l c.path id).entries[u]? := by
    rw [added_entry, hu]
    rfl
  rw [hentry]
  exact cleared_entry hb

/-- An entry without a package makes way for nobody. -/
theorem not_displaced_of_bare {path : String} {e : LibraryEntry} (he : l.entries[u]? = some e)
    (hek : e.package = none) : ¬ Displaced w l path id u := by
  rintro ⟨e', k, -, -, he', hk, -⟩
  obtain rfl : e = e' := Option.some.inj (he.symm.trans he')
  exact absurd (hek.symm.trans hk) (by simp)

/-- An entry with a package of a container that stays makes way for nobody. -/
theorem not_displaced_of_stays (hw : Consistent w) {path : String} {e : LibraryEntry}
    {k : PackageId} (he : l.entries[u]? = some e) (hek : e.package = some k)
    (hb : w.containers.get? j = some b) (hk : k ∈ b.packages) (hj : ¬ MakesWay l path id j) :
    ¬ Displaced w l path id u := by
  rintro ⟨e', k', i, d, he', hek', hi, hd, hk'⟩
  obtain rfl : e = e' := Option.some.inj (he.symm.trans he')
  obtain rfl : k = k' := Option.some.inj (hek.symm.trans hek')
  -- no package is in two lists
  exact hj (hw.member_unique hd hb hk' hk ▸ hi)

/-! ## §2. The rest of the host. -/

/-- The container that makes way is closed and given up, and nothing else but its
packages changes. -/
theorem retire_confined (slot : String) (l : Library) (hb : w.containers.get? j = some b) :
    Confined j b.packages w (retire slot l j w).2 := by
  have hall : ∀ k ∈ b.packages, k ∈ b.packages := fun _ hk => hk
  unfold retire
  rw [get_bind_apply, hb]
  simp only [bind_apply, pure_apply]
  -- one step after the other, each from where the last one ended
  have hemit : Confined j b.packages w (through (Gateway.emit (.containerReplaced b.path)) w).2 :=
    .through _ w
  have hb0 : (through (Gateway.emit (.containerReplaced b.path)) w).2.containers.get? j
      = some b := hb
  generalize (through (Gateway.emit (.containerReplaced b.path)) w).2 = w0 at hemit hb0 ⊢
  have hclose : Confined j b.packages w0 (closeContainerIfOpen j w0).2 :=
    .closeContainerIfOpen hb0 hall
  generalize (closeContainerIfOpen j w0).2 = w1 at hclose ⊢
  have hupdate : Confined j b.packages w1 (update slot (.library (l.forget b.packages)) w1).2 :=
    .update _ _ w1
  generalize (update slot (.library (l.forget b.packages)) w1).2 = w2 at hupdate ⊢
  have hbefore : Confined j b.packages w w2 := trans_of _ (trans_of _ hemit hclose) hupdate
  refine trans_of _ hbefore ?_
  cases hb2 : w2.containers.get? j with
  | none =>
    unfold dropContainer
    rw [get_bind_apply, hb2]
    split <;> exact refl_of _ w2
  | some b2 =>
    obtain ⟨b', hb', hlist⟩ := hbefore.lists b2 hb2
    obtain rfl : b = b' := Option.some.inj (hb.symm.trans hb')
    exact .dropContainer hb2 (hlist ▸ hall)

/-- A package that is owned does not go away. -/
theorem dropPackages_owned (ks : List PackageId) (hks : ∀ k ∈ ks, w.packageOwned k = true) :
    (ks.forM dropPackage w).2 = w := by
  induction ks with
  | nil => rfl
  | cons k ks ih =>
    have hk : (dropPackage k w).2 = w := by
      unfold dropPackage
      rw [get_bind_apply, if_pos (hks k (List.mem_cons_self ..))]
      rfl
    show (ks.forM dropPackage (dropPackage k w).2).2 = w
    rw [hk]
    exact ih fun a ha => hks a (List.mem_cons_of_mem _ ha)

/-- **Publications entered into a library**: what they push out of their entries
is in the list of a container, so nothing goes away. -/
theorem enter_keeps (slot : String) (c : Container) (h : Backed w l) :
    let w' := ((do
        let w ← get
        let (count, entered) := l.enterAll c.path (w.publications c)
        (w.unidentified c).forM fun h => through (Gateway.emit (.packageWithoutId h c.path))
        update slot (.library entered)
        l.packageIds.forM dropPackage
        pure count : StateM Host Nat) w).2
    w'.containers = w.containers ∧ w'.packages = w.packages
      ∧ w'.gateway.engine = w.gateway.engine := by
  simp only [bind_apply, get_apply, pure_apply]
  obtain ⟨g, hg, hemits⟩ := emits_apply (.packageWithoutId · c.path) (w.unidentified c) w
  rw [hemits]
  generalize hw1 : (update slot (.library (l.enterAll c.path (w.publications c)).2)
    { w with gateway := g }).2 = w1
  have hpools : w1.containers = w.containers ∧ w1.packages = w.packages
      ∧ w1.gateway.engine = w.gateway.engine := by
    rw [← hw1]
    exact ⟨rfl, rfl, hg⟩
  rw [dropPackages_owned]
  · exact hpools
  · intro k hk
    obtain ⟨v, e, he, hek⟩ := Library.mem_packageIds.mp hk
    obtain ⟨i, d, -, hd, hkd⟩ := h.listed v e k he hek
    exact (w1.packageOwned_iff k).mpr (.inr ⟨i, d, by rw [hpools.1, hd], hkd⟩)

/-- **The pools after a container was added**: the same if nothing makes way, and
otherwise different in what makes way only. -/
theorem addToLibrary_pools {other : String} (hw : Consistent w)
    (hl : w.slots[slot]? = some (.library l)) (hid : w.slots[other]? = some (.container id))
    (hc : w.containers.get? id = some c) (hb : Backed w l) :
    let w' := (addToLibrary slot l id w).2
    (l.replaced? c.path id = none → w'.containers = w.containers ∧ w'.packages = w.packages
        ∧ w'.gateway.engine = w.gateway.engine)
      ∧ ∀ j b, l.replaced? c.path id = some j → w.containers.get? j = some b →
          Confined j b.packages w w' := by
  have hcleared : Backed w (w.cleared l c.path id) := hb.cleared hc
  unfold addToLibrary
  rw [get_bind_apply, hc]
  dsimp only
  cases hr : l.replaced? c.path id with
  | none =>
    refine ⟨fun _ => ?_, fun j b hj => absurd hj (by simp)⟩
    have hset : w.cleared l c.path id = l.setContainer c.path id := by
      unfold cleared
      rw [hr, Option.bind_none]
    rw [hset] at hcleared
    exact enter_keeps slot c hcleared
  | some j =>
    refine ⟨fun hnone => absurd hnone (by simp), fun i b hi hib => ?_⟩
    obtain rfl : j = i := Option.some.inj hi
    obtain ⟨hresult, hretire, hslots, -⟩ := retire_later (S := .any) hw hl hid hr trivial
      fun _ => trivial
    have hconfined := retire_confined slot (l.setContainer c.path id) hib
    dsimp only
    rw [bind_apply, hresult]
    generalize (retire slot (l.setContainer c.path id) j w).2 = w1 at hretire hslots hconfined ⊢
    have hl1 : w1.slots[slot]? = some (.library (w.cleared l c.path id)) := by
      rw [hslots, if_pos rfl]
    -- what is left at the entries is listed by containers that are still there
    have hbacked : Backed w1 (w.cleared l c.path id) :=
      hcleared.later hretire (hretire.after.stocked hl1)
    obtain ⟨hcontainers, hpackages, -⟩ := enter_keeps slot c hbacked
    exact trans_of _ hconfined (.same hcontainers hpackages)

/-! ## §3. Adding a container. -/

/-- The container `c` under the number `id` was added to the library `l` in the
slot.  Now the slot holds `l'`, and this is all that changed in the library and
in the pools. -/
structure Adds (slot : String) (l : Library) (id : ContainerId) (c : Container) (w : Host)
    (l' : Library) (w' : Host) : Prop where
  library : w'.slots[slot]? = some (.library l')
  otherSlots : ∀ m : String, m ≠ slot → w'.slots[m]? = w.slots[m]?
  /-- One path changes hands. -/
  registered : ∀ path : String,
    l'.containers[path]? = if path = c.path then some id else l.containers[path]?
  /-- The last package with an identifier takes the entry. -/
  named : ∀ (u : String) k, (w.packagesNamed c u).getLast? = some k →
    l'.entries[u]? = some ⟨c.path, some k⟩
  /-- What the replaced container backed goes. -/
  displaced : ∀ u : String, w.packagesNamed c u = [] → Displaced w l c.path id u →
    l'.entries[u]? = none
  /-- Every other entry stays. -/
  kept : ∀ u : String, w.packagesNamed c u = [] → ¬ Displaced w l c.path id u →
    l'.entries[u]? = l.entries[u]?
  /-- Paths that were read stay, even under the path of the container. -/
  bare : ∀ (u : String) e, w.packagesNamed c u = [] → l.entries[u]? = some e → e.package = none →
    l'.entries[u]? = some e
  /-- What any other container backs stays. -/
  backedByOthers : ∀ (u : String) e k j b, w.packagesNamed c u = [] → l.entries[u]? = some e →
    e.package = some k → w.containers.get? j = some b → k ∈ b.packages →
    ¬ MakesWay l c.path id j → l'.entries[u]? = some e
  /-- The replaced container is closed, or gone. -/
  retired : ∀ j, MakesWay l c.path id j → w'.standing? j = none
  /-- Every other container is as it was. -/
  otherContainers : ∀ j, ¬ MakesWay l c.path id j → w'.containers.get? j = w.containers.get? j
  /-- So is every package that the replaced container does not list. -/
  otherPackages : ∀ k, (∀ j b, MakesWay l c.path id j → w.containers.get? j = some b →
    k ∉ b.packages) → w'.packages.get? k = w.packages.get? k
  /-- If nothing makes way, no object changes and the engine is not called. -/
  calm : (∀ j, ¬ MakesWay l c.path id j) → w'.containers = w.containers
    ∧ w'.packages = w.packages ∧ w'.gateway.engine = w.gateway.engine
  /-- It is so for the container that is registered already. -/
  again : l.containers[c.path]? = some id → w'.containers = w.containers
    ∧ w'.packages = w.packages ∧ w'.gateway.engine = w.gateway.engine

/-- **Adding a container changes only what it must.**  Take any host and any
library of it whose entries are backed, and add any container: open or closed,
new or registered already, with any identifiers.  Its path leads to it and every
other path leads where it did; an identifier that its packages have leads to the
last of them; the packages of another container under that path go out of the
entries, and that container alone is closed; everything else is as before.
Afterwards the same is true of host and library as was before.  Any host is of
this kind after any run (`consistent_after`, `librariesBacked_after`). -/
theorem adding_changes_only (w : Host) (slot other : String) (l : Library) (id : ContainerId)
    (c : Container) (hw : Consistent w) (hb : Backed w l)
    (hl : w.slots[slot]? = some (.library l)) (hid : w.slots[other]? = some (.container id))
    (hc : w.containers.get? id = some c) :
    let w' := (run (.addToLibrary slot other) w).2
    ∃ l', Adds slot l id c w l' w' ∧ Consistent w' ∧ Backed w' l' := by
  intro w'
  have hrun : w' = (addToLibrary slot l id w).2 :=
    congrArg Prod.snd (run_addToLibrary_apply hl hid hc)
  obtain ⟨hlater, hslots, hretired⟩ := addToLibrary_later (S := .any) hw hl hid hc
    (fun _ _ => trivial) trivial
  obtain ⟨hcalm, hconfined⟩ := addToLibrary_pools hw hl hid hc hb
  rw [← hrun] at hlater hslots hretired hcalm hconfined
  have hl' : w'.slots[slot]? = some (.library (w.added l id c)) := by rw [hslots, if_pos rfl]
  have hnone : (∀ j, ¬ MakesWay l c.path id j) → l.replaced? c.path id = none := fun h =>
    Option.eq_none_iff_forall_ne_some.mpr fun j hj => h j (replaced?_iff.mp hj)
  have hkept : ∀ u : String, w.packagesNamed c u = [] → ¬ Displaced w l c.path id u →
      (w.added l id c).entries[u]? = l.entries[u]? := fun u hu =>
    (added_entry_of_other hb hu).2
  -- the pools, by whether a container makes way
  have hothers : (∀ j, ¬ MakesWay l c.path id j → w'.containers.get? j = w.containers.get? j)
      ∧ ∀ k, (∀ j b, MakesWay l c.path id j → w.containers.get? j = some b → k ∉ b.packages) →
          w'.packages.get? k = w.packages.get? k := by
    cases hr : l.replaced? c.path id with
    | none =>
      obtain ⟨hcontainers, hpackages, -⟩ := hcalm hr
      exact ⟨fun _ _ => by rw [hcontainers], fun _ _ => by rw [hpackages]⟩
    | some j =>
      have hj := replaced?_iff.mp hr
      obtain ⟨b, hjb, -⟩ := hb.registered c.path j hj.1
      have hbounds := hconfined j b hr hjb
      exact ⟨fun i hi => hbounds.others i fun hij => hi (hij ▸ hj),
        fun k hk => hbounds.packages k (hk j b hj hjb)⟩
  refine ⟨w.added l id c, ?_, hlater.after, (hb.added hc).later hlater (hlater.after.stocked hl')⟩
  exact {
    library := hl'
    otherSlots := fun m hm => by rw [hslots, if_neg hm]
    registered := fun path => by
      rw [added_containers, Std.ExtTreeMap.getElem?_insert]
      by_cases hpath : path = c.path <;> simp [hpath, Ne.symm]
    named := fun u k hk => added_entry_of_named hk
    displaced := fun u hu => (added_entry_of_other hb hu).1
    kept := hkept
    bare := fun u e hu he hek => (hkept u hu (not_displaced_of_bare he hek)).trans he
    backedByOthers := fun u e k j b hu he hek hjb hk hj =>
      (hkept u hu (not_displaced_of_stays hw he hek hjb hk hj)).trans he
    retired := fun j hj => hretired j (replaced?_iff.mpr hj)
    otherContainers := hothers.1
    otherPackages := hothers.2
    calm := fun h => hcalm (hnone h)
    again := fun h => hcalm (hnone fun j hj => hj.2 (Option.some.inj (hj.1.symm.trans h))) }

/-- Three archives after each other under one path: the library that registered
the first was closed, the second is registered, and the third, which has two
packages with one identifier, is open. -/
def sampleSuccession : List Command :=
  sampleLibrary ++ [.closeLibrary "library", .register "a" (identifiedArchive "v"),
    .openContainer "a" .default "second", .addToLibrary "library" "second",
    .register "a" { identifiedArchive "w" with
      packages := (identifiedArchive "w").packages ++ (identifiedArchive "w").packages },
    .openContainer "a" .default "third"]

/-- The third takes the path, its second package the entry; the entry of the second
goes, and the path that the first left behind stays. -/
theorem adding_changes_only_sample :
    let w := after sampleSuccession fresh
    let w' := (run (.addToLibrary "library" "third") w).2
    ∃ l c l', w.slots["library"]? = some (.library l) ∧ w.containers.get? 2 = some c
      ∧ Adds "library" l 2 c w l' w' ∧ l'.containers["a"]? = some 2
      ∧ l'.entries["w"]? = some ⟨"a", some 3⟩ ∧ l'.entries["v"]? = none
      ∧ l'.entries["u"]? = some ⟨"a", none⟩ ∧ w'.standing? 1 = none
      ∧ w'.containers.get? 0 = w.containers.get? 0 := by
  intro w
  have hw : Consistent w := consistent_after sampleSuccession
  have hbacked : LibrariesBacked w := librariesBacked_after sampleSuccession
  have hlibrary : (w.slots["library"]?.bind Holding.library?).map (fun l =>
      (l.containers["a"]?, l.entries["u"]?, l.entries["v"]?))
      = some (some 1, some ⟨"a", none⟩, some ⟨"a", some 1⟩) := by decide +kernel
  have hid : w.slots["third"]? = some (.container 2) := Holding.eq_container (by decide +kernel)
  have hnamed : (w.containers.get? 2).map (fun c => (c.path, w.packagesNamed c "u",
      w.packagesNamed c "v", (w.packagesNamed c "w").getLast?))
      = some ("a", [], [], some 3) := by decide +kernel
  have hsecond : (w.containers.get? 1).map Container.packages = some [1] := by decide +kernel
  clear_value w
  intro w'
  obtain ⟨l, hl, hentries⟩ := Option.map_eq_some_iff.mp hlibrary
  obtain ⟨c, hc, hc'⟩ := Option.map_eq_some_iff.mp hnamed
  obtain ⟨b, hb, hlist⟩ := Option.map_eq_some_iff.mp hsecond
  simp only [Prod.mk.injEq] at hentries hc'
  obtain ⟨hpath, hu, hv⟩ := hentries
  obtain ⟨hcpath, hnou, hnov, hlast⟩ := hc'
  have hl := Holding.eq_library hl
  obtain ⟨l', hadds, -, -⟩ := adding_changes_only w "library" "third" l 2 c hw
    (hbacked "library" l hl) hl hid hc
  have hway : MakesWay l c.path 2 1 := ⟨hcpath ▸ hpath, by decide⟩
  refine ⟨l, c, l', hl, hc, hadds, ?_, ?_, hadds.displaced "v" hnov ?_,
    hadds.bare "u" _ hnou hu rfl, hadds.retired 1 hway, hadds.otherContainers 0 fun h => ?_⟩
  · rw [hadds.registered, if_pos hcpath.symm]
  · rw [hadds.named "w" 3 hlast, hcpath]
  · exact ⟨_, 1, 1, b, hv, rfl, hway, hb, hlist ▸ List.mem_singleton_self 1⟩
  · exact absurd (Option.some.inj (h.1.symm.trans hway.1)) (by decide)

end Host

end EpubAccess
