/-
  EpubAccess.Proofs.Libraries.Identifiers
  ────────────────────────────────
  Where a library finds an identifier that several containers carry.

  An identifier has one entry, and every container that carries it takes the
  entry over when it is added.  So the entry belongs to the container that was
  added last among those (`Host.carriersAdded`); it goes when that container
  makes way for another one, even if others that carry the identifier are
  still registered.  `Host.FoundAt` says this of one library, and is kept up
  by the frame lemma `FoundAt.later` and by what adding a container does
  (`FoundAt.added_carrier`, `FoundAt.added_other`).  A container that a library
  registers has two owners, so no package joins it (`registered_not_attached`).

  `Host.publications_found` is the result for every sequence of additions.
-/
import EpubAccess.Proofs.Libraries.Backing

namespace EpubAccess

open Stateful

/-- Does the command leave the library in the slot there, without closing it? -/
def Command.growsLibrary (slot : String) : Command → Bool
  | .closeLibrary s => s != slot
  | c => c.keepsLibrary slot

theorem Command.keepsLibrary_of_grows {slot : String} {c : Command}
    (h : c.growsLibrary slot = true) :
    c.keepsLibrary slot = true := by
  cases c with
  | closeLibrary s => rfl
  | _ => exact h

namespace Host

variable {S : Scope} {w w' : Host} {slot u : String} {l : Library} {id : ContainerId}
    {c : Container}
  {last : Option ContainerId}

/-! ## §1. Containers that are registered. -/

/-- Of a container with one owner no second slot is an owner. -/
theorem sole_owner (h : w.containerOwners id ≤ 1) {m m' : String} {o o' : Holding}
    (ho : w.slots[m]? = some o) (ho' : w.slots[m']? = some o') (hid : id ∈ o.containers)
    (hid' : id ∈ o'.containers) : m = m' := by
  have hmem : ∀ (m : String) o, w.slots[m]? = some o → id ∈ o.containers →
      (m, o) ∈ w.slots.toList.filter fun x => x.2.ownsContainer id := by
    intro m o ho hid
    refine List.mem_filter.mpr ⟨Std.ExtTreeMap.mem_toList_iff_getElem?_eq_some.mpr ho, ?_⟩
    exact (o.mem_containers id).mp hid
  have hfirst := hmem m o ho hid
  have hsecond := hmem m' o' ho' hid'
  unfold containerOwners at h
  generalize w.slots.toList.filter (fun x => x.2.ownsContainer id) = xs at h hfirst hsecond
  cases xs with
  | nil => exact absurd hfirst List.not_mem_nil
  | cons x xs =>
    have hnil : xs = [] := List.eq_nil_of_length_eq_zero (by
      rw [List.length_cons] at h
      omega)
    rw [hnil, List.mem_singleton] at hfirst hsecond
    exact congrArg Prod.fst (hfirst.trans hsecond.symm)

/-- **No package joins a registered container**, since the library is an owner
beside the slot that a command would name. -/
theorem registered_not_attached {d : Command} (hl : w.slots[slot]? = some (.library l))
    {path : String} (hid : l.containers[path]? = some id) : ¬ Attaches w d id := by
  rintro ⟨ho, howners⟩
  have hsame := sole_owner howners ho hl (List.mem_singleton_self id)
    (Library.mem_containerIds.mpr ⟨path, hid⟩)
  rw [hsame, hl] at ho
  exact absurd ho (by simp)

/-- Some package of the container has the identifier. -/
def Carries (w : Host) (c : Container) (u : String) : Prop :=
  ∃ k ∈ c.packages, ∃ p, w.packages.get? k = some p ∧ p.metadata.uniqueId = some u

/-- Does a publication of the container have the identifier? -/
def carries (w : Host) (u : String) (c : Container) : Bool :=
  (w.publications c).any fun x => x.2 == some u

theorem carries_iff : w.carries u c = true ↔ w.Carries c u := by
  unfold carries Carries
  rw [List.any_eq_true]
  constructor
  · rintro ⟨⟨k, v⟩, hk, hv⟩
    obtain ⟨hmem, p, hp, hu⟩ := mem_publications.mp hk
    exact ⟨k, hmem, p, hp, hu.trans (by simpa using hv)⟩
  · rintro ⟨k, hk, p, hp, hu⟩
    exact ⟨(k, some u), mem_publications.mpr ⟨hk, p, hp, hu⟩, by simp⟩

/-- The container that a command adds to the library in the slot, if it carries
the identifier. -/
def carrierAdded (slot u : String) (c : Command) (w : Host) : Option ContainerId :=
  match c with
  | .addToLibrary s other =>
    match w.slots[other]? with
    | some (.container id) =>
      if s = slot ∧ (w.containers.get? id).any (w.carries u) then some id else none
    | _ => none
  | _ => none

theorem carrierAdded_of_added {other : String} (hid : w.slots[other]? = some (.container id))
    (hc : w.containers.get? id = some c) :
    carrierAdded slot u (.addToLibrary slot other) w = if w.carries u c then some id else none := by
  simp [carrierAdded, hid, hc]

theorem carrierAdded_of_not {d : Command}
    (h : ¬ ∃ other id, d = .addToLibrary slot other ∧ w.slots[other]? = some (.container id)) :
    carrierAdded slot u d w = none := by
  unfold carrierAdded
  split
  · split
    · next hid => exact if_neg fun hs => h ⟨_, _, by rw [hs.1], hid⟩
    · rfl
  · rfl

/-- The containers that a run adds to the library in the slot, those that carry
the identifier, in the order in which they are added. -/
def carriersAdded (slot u : String) : List Command → Host → List ContainerId :=
  collect fun c w => (carrierAdded slot u c w).toList

/-! ## §2. The entry of an identifier. -/

/-- The entry of an identifier belongs to the container that was added last
among those that carry it, as long as that one is registered. -/
structure FoundAt (w : Host) (l : Library) (u : String) (last : Option ContainerId) : Prop where
  known : ∀ id ∈ last, id < w.containers.next
  carrier : ∀ id ∈ last, ∀ c, w.containers.get? id = some c → w.Carries c u
  carried : ∀ (path : String) id c, l.containers[path]? = some id →
    w.containers.get? id = some c → w.Carries c u → last.isSome = true
  found : ∀ id ∈ last, ∀ path : String, l.containers[path]? = some id →
    ∃ k c, l.entries[u]? = some ⟨path, some k⟩ ∧ w.containers.get? id = some c ∧ k ∈ c.packages
  lost : ∀ id ∈ last, (∀ path : String, l.containers[path]? ≠ some id) → l.entries[u]? = none

namespace FoundAt

/-- A library without containers, to which nothing was added.  It may know the
identifier, from a file or from containers that it closed. -/
theorem start (w : Host) (u : String) (hempty : l.containers = ∅) : FoundAt w l u none := by
  refine ⟨by simp, by simp, ?_, by simp, by simp⟩
  intro path id c hid
  rw [hempty] at hid
  exact absurd hid (by simp)

/-- A later host with the same library, whose containers are attached nothing. -/
theorem later (h : FoundAt w l u last) (hlater : Later S w w') (hb : Backed w l) (hl : w'.Stocked l)
    (hlists : ∀ (path : String) id, l.containers[path]? = some id → ¬ S.attaching id) :
    FoundAt w' l u last := by
  refine ⟨fun id hid => Nat.lt_of_lt_of_le (h.known id hid) hlater.containersNext,
    fun id hid c' hc' => ?_, fun path id c' hid hc' hcarries => ?_,
    fun id hid path hpath => ?_, h.lost⟩
  · -- a container under a number that was known is an old one, which carried it before
    rcases hlater.containers id c' hc' with hnew | ⟨c, hc, hgrown, -⟩
    · exact absurd (h.known id hid) (Nat.not_lt.mpr hnew)
    obtain ⟨k, hk, p, hp, hu⟩ := h.carrier id hid c hc
    obtain ⟨p', hp', -⟩ := hlater.after.members id c' hc' k (hgrown.mem hk)
    exact ⟨k, hgrown.mem hk, p', hp', by rw [(hlater.package hp hp').metadata, hu]⟩
  · -- a registered one gained no package, so it carried it before as well
    obtain ⟨c, hc, -⟩ := hb.registered path id hid
    obtain ⟨k, hk, p', hp', hu⟩ := hcarries
    rw [hlater.list hc hc' (hlists path id hid)] at hk
    obtain ⟨p, hp, -⟩ := hlater.before.members id c hc k hk
    exact h.carried path id c hid hc ⟨k, hk, p, hp, by rw [← (hlater.package hp hp').metadata, hu]⟩
  · obtain ⟨k, c, hentry, hc, hk⟩ := h.found id hid path hpath
    obtain ⟨c', hc'⟩ := hl.1 id (Library.mem_containerIds.mpr ⟨path, hpath⟩)
    exact ⟨k, c', hentry, hc', (hlater.container hc hc').mem hk⟩

/-- **A container that carries the identifier** takes the entry over. -/
theorem added_carrier (hw : Consistent w) (hb : Backed w l) (hc : w.containers.get? id = some c)
    (hcarries : w.Carries c u) : FoundAt w (w.added l id c) u (some id) := by
  obtain ⟨k, hk, hentry⟩ : ∃ k, k ∈ c.packages
      ∧ (w.added l id c).entries[u]? = some ⟨c.path, some k⟩ := by
    rcases (w.cleared l c.path id).enterAll_entry c.path u (w.publications c)
      with ⟨-, hnone⟩ | ⟨k, hk, hentry⟩
    · obtain ⟨k, hk, hp⟩ := hcarries
      exact absurd (mem_publications.mpr ⟨hk, hp⟩) (hnone k)
    · exact ⟨k, (mem_publications.mp hk).1, hentry⟩
  have hself : ∀ j, j ∈ some id → j = id := fun j hj => (Option.mem_some.mp hj).symm
  have hat : (w.added l id c).containers[c.path]? = some id := by
    rw [added_containers]
    simp
  refine ⟨fun j hj => hself j hj ▸ hw.containerIds id c hc, fun j hj b hj' => ?_,
    fun _ _ _ _ _ _ => rfl,
    fun j hj path hpath => ?_, fun j hj hnone => absurd hat (hself j hj ▸ hnone c.path)⟩
  · rw [hself j hj, hc, Option.some.injEq] at hj'
    exact hj' ▸ hcarries
  · rw [hself j hj] at hpath ⊢
    rw [(hb.added hc).path_unique hpath hat]
    exact ⟨k, c, hentry, hc, hk⟩

/-- **Any other container** leaves the entry, unless the one that has it makes
way. -/
theorem added_other (hw : Consistent w) (hb : Backed w l) (h : FoundAt w l u last)
    (hc : w.containers.get? id = some c) (hother : ¬ w.Carries c u) :
    FoundAt w (w.added l id c) u last := by
  have hentries : (w.added l id c).entries[u]? = (w.cleared l c.path id).entries[u]? := by
    rcases (w.cleared l c.path id).enterAll_entry c.path u (w.publications c)
      with ⟨hsame, -⟩ | ⟨k, hk, -⟩
    · exact hsame
    · exact absurd ⟨k, (mem_publications.mp hk).1, (mem_publications.mp hk).2⟩ hother
  have hregistered : ∀ (path : String) j, (w.added l id c).containers[path]? = some j →
      j = id ∨ c.path ≠ path ∧ l.containers[path]? = some j := by
    intro path j hj
    rw [added_containers, Std.ExtTreeMap.getElem?_insert] at hj
    split at hj
    · exact .inl (Option.some.inj hj).symm
    · next hpath => exact .inr ⟨by simpa using hpath, hj⟩
  have hne : ∀ j ∈ last, j ≠ id := by
    rintro j hj rfl
    exact hother (h.carrier j hj c hc)
  refine ⟨h.known, h.carrier, fun path j b hj hb' hcarries => ?_, fun j hj path hpath => ?_,
    fun j hj hnone => ?_⟩
  · rcases hregistered path j hj with rfl | ⟨-, hj⟩
    · rw [hc, Option.some.injEq] at hb'
      exact absurd (hb' ▸ hcarries) hother
    · exact h.carried path j b hj hb' hcarries
  · obtain ⟨hpath', hreg⟩ := (hregistered path j hpath).resolve_left (hne j hj)
    obtain ⟨k, b, hentry, hb', hk⟩ := h.found j hj path hreg
    refine ⟨k, b, ?_, hb', hk⟩
    rw [hentries]
    cases hr : l.replaced? c.path id with
    | none => rw [cleared_entries_of_none hr, hentry]
    | some i =>
      -- what makes way is another container, so it does not list the package
      obtain ⟨hi, -⟩ := l.replaced?_eq_some c.path hr
      obtain ⟨d, hd, -⟩ := hb.registered c.path i hi
      rw [cleared_entry_of_some hr hd, hentry, Option.filter_eq_some_iff]
      refine ⟨rfl, ?_⟩
      have hnot : k ∉ d.packages := fun hkd => by
        have hij : i = j := hw.member_unique hb' hd hk hkd
        exact hpath' (hb.path_unique (hij ▸ hi) hreg)
      simpa using hnot
  · rw [hentries]
    by_cases hreg : ∃ path : String, l.containers[path]? = some j
    · -- the container with the entry was registered, so it is the one that makes way
      obtain ⟨path, hreg⟩ := hreg
      have hpath : c.path = path := by
        by_contra hpath
        refine hnone path ?_
        rw [added_containers, Std.ExtTreeMap.getElem?_insert, if_neg (by simpa using hpath), hreg]
      have hr : l.replaced? c.path id = some j := by
        rw [Library.replaced?, hpath, hreg]
        simpa using hne j hj
      obtain ⟨k, b, hentry, hb', hk⟩ := h.found j hj path hreg
      rw [cleared_entry_of_some hr hb', hentry]
      simp [Option.filter, hk]
    · have hnone' : l.entries[u]? = none := h.lost j hj fun path hreg' => hreg ⟨path, hreg'⟩
      cases hr : l.replaced? c.path id with
      | none => rw [cleared_entries_of_none hr, hnone']
      | some i =>
        obtain ⟨hi, -⟩ := l.replaced?_eq_some c.path hr
        obtain ⟨d, hd, -⟩ := hb.registered c.path i hi
        rw [cleared_entry_of_some hr hd, hnone']
        rfl

/-- **One command** that leaves the library in its slot and does not close it. -/
theorem step {d : Command} (hw : Consistent w) (hb : LibrariesBacked w)
    (hl : w.slots[slot]? = some (.library l)) (h : FoundAt w l u last)
    (hd : d.growsLibrary slot = true) :
    ∃ l', (run d w).2.slots[slot]? = some (.library l')
      ∧ FoundAt (run d w).2 l' u ((carrierAdded slot u d w).or last) := by
  have hlater := run_later d hw
  by_cases hadds : ∃ other id, d = .addToLibrary slot other ∧ w.slots[other]? = some (.container id)
  · obtain ⟨other, id, rfl, hid⟩ := hadds
    obtain ⟨c, hc⟩ := hw.ownedContainers other _ hid id (by simp [Holding.containers])
    have hl' := run_addToLibrary_slot hw hl hid hc
    refine ⟨_, hl', later (w := w) ?_ hlater ((hb slot l hl).added hc)
      (hlater.after.stocked hl') ?_⟩
    · rw [carrierAdded_of_added hid hc]
      by_cases hcarries : w.Carries c u
      · rw [if_pos (carries_iff.mpr hcarries), Option.some_or]
        exact added_carrier hw (hb slot l hl) hc hcarries
      · rw [if_neg (mt carries_iff.mp hcarries), Option.none_or]
        exact added_other hw (hb slot l hl) h hc hcarries
    · -- adding a container attaches no package
      rintro path j - ⟨⟩
  · obtain ⟨l', hl', hturns⟩ := run_turns hlater hl (Command.keepsLibrary_of_grows hd)
    rw [carrierAdded_of_not hadds, Option.none_or]
    cases hturns with
    | same =>
      exact ⟨l, hl', h.later hlater (hb slot l hl) (hlater.after.stocked hl')
        fun _ _ hid => registered_not_attached hl hid⟩
    | added hid _ => exact absurd ⟨_, _, rfl, hid⟩ hadds
    | closed => exact absurd hd (by simp [Command.growsLibrary])

/-- **A run** of such commands, from the containers that were added so far. -/
theorem after {cs : List Command} (hw : Consistent w) (hb : LibrariesBacked w)
    (hl : w.slots[slot]? = some (.library l)) (h : FoundAt w l u last)
    (hcs : ∀ c ∈ cs, c.growsLibrary slot = true) :
    ∃ l', (after cs w).slots[slot]? = some (.library l')
      ∧ FoundAt (after cs w) l' u ((carriersAdded slot u cs w).getLast?.or last) := by
  -- the induction is on the commands; what is added later comes first
  induction cs generalizing w l last with
  | nil => exact ⟨l, hl, h⟩
  | cons c cs ih =>
    have hlater := run_later c hw
    obtain ⟨l', hl', h'⟩ := h.step hw hb hl (hcs c (List.mem_cons_self ..))
    obtain ⟨l'', hl'', h''⟩ := ih hlater.after (hb.step hlater) hl' h' fun d hd =>
      hcs d (List.mem_cons_of_mem _ hd)
    refine ⟨l'', hl'', ?_⟩
    have hlast : (carriersAdded slot u (c :: cs) w).getLast?
        = (carriersAdded slot u cs (run c w).2).getLast?.or (carrierAdded slot u c w) := by
      show ((carrierAdded slot u c w).toList ++ carriersAdded slot u cs (run c w).2).getLast? = _
      rw [List.getLast?_append]
      cases carrierAdded slot u c w <;> rfl
    rw [hlast, Option.or_assoc]
    exact h''

end FoundAt

/-! ## §3. Identifiers over whole runs. -/

/-- The library finds the identifier at a container: under its path, with one of
its packages that has it. -/
structure Finds (w : Host) (l : Library) (u : String) (id : ContainerId) (c : Container)
    (k : PackageId) : Prop where
  registered : l.containers[c.path]? = some id
  container : w.containers.get? id = some c
  listed : k ∈ c.packages
  identified : ∃ p, w.packages.get? k = some p ∧ p.metadata.uniqueId = some u
  path : l.pathForUniqueId u = some c.path
  package : l.packageForUniqueId u = some k

/-- **Which registered publications are found.**  Take a library that registers
no container: a new one, one that was read from a file, or one that closed its
containers.  Let containers be added to it in any order, under any paths, with
any identifiers, also again and in place of others, and let the host do whatever
else it does in between.  If a registered container has a package with an
identifier, some container with that identifier was added, and the one added
last decides: as long as it is registered the library finds the identifier
there, and once it was replaced the library finds it nowhere. -/
theorem publications_found (before life : List Command) (slot u : String) (l₀ : Library)
    (hslot : (after before fresh).slots[slot]? = some (.library l₀)) (hempty : l₀.containers = ∅)
    (hlife : ∀ c ∈ life, c.growsLibrary slot = true) :
    let start := after before fresh
    let w := after life start
    ∃ l, w.slots[slot]? = some (.library l)
      ∧ ∀ (path : String) id c, l.containers[path]? = some id → w.containers.get? id = some c →
          w.Carries c u →
          ∃ last, (carriersAdded slot u life start).getLast? = some last
            ∧ ((∃ b k, Finds w l u last b k)
              ∨ (∀ path : String, l.containers[path]? ≠ some last)
                ∧ l.pathForUniqueId u = none ∧ l.packageForUniqueId u = none) := by
  intro start w
  have hw : Consistent start := consistent_after before
  have hbacked : LibrariesBacked start := librariesBacked_after before
  obtain ⟨l, hl, hfound⟩ := (FoundAt.start start u hempty).after hw hbacked hslot hlife
  rw [Option.or_none] at hfound
  have hend : LibrariesBacked w := (after_induction (P := LibrariesBacked) life hw hbacked
    fun _ _ _ _ h hlater => h.step hlater).2
  refine ⟨l, hl, ?_⟩
  intro path id c hid hc hcarries
  obtain ⟨last, hlast⟩ := Option.isSome_iff_exists.mp (hfound.carried path id c hid hc hcarries)
  refine ⟨last, hlast, ?_⟩
  by_cases hreg : ∃ path : String, l.containers[path]? = some last
  · -- the entry is backed, so it names the path and a package of that container
    obtain ⟨a, ha⟩ := hreg
    obtain ⟨k, b, hentry, hb, hk⟩ := hfound.found last hlast a ha
    obtain ⟨b', hb', hpath⟩ := (hend slot l hl).registered a last ha
    rw [hb, Option.some.injEq] at hb'
    subst hb' hpath
    exact .inl ⟨b, k, ha, hb, hk, (hend slot l hl).identified u _ k hentry rfl,
      by rw [Library.pathForUniqueId, hentry]; rfl, by rw [Library.packageForUniqueId, hentry]; rfl⟩
  · have hgone : ∀ path : String, l.containers[path]? ≠ some last := by
      intro a ha
      exact hreg ⟨a, ha⟩
    have hnone : l.entries[u]? = none := hfound.lost last hlast hgone
    exact .inr ⟨hgone, by rw [Library.pathForUniqueId, hnone]; rfl,
      by rw [Library.packageForUniqueId, hnone]; rfl⟩

/-- A new library stands in its slot. -/
theorem newLibrary_slot (before : List Command) (slot : String) :
    (after (before ++ [.newLibrary slot]) fresh).slots[slot]? = some (.library .empty) := by
  have hw := consistent_after before
  obtain ⟨hc, hk⟩ := Library.empty_owns
  rw [after_append]
  have hslots := store_slots slot (.library .empty) hw (by simp [Holding.containers, hc])
    (by simp [Holding.packages, hk]) slot
  exact hslots.trans (if_pos rfl)

/-- Two archives whose packages have the same identifier, both opened. -/
def sampleTwins : List Command :=
  [.register "a" (identifiedArchive "u"), .register "b" (identifiedArchive "u"),
    .openContainer "a" .default "first", .openContainer "b" .default "second"]

/-- A new library beside them. -/
def sampleTwinShelf : List Command := sampleTwins ++ [.newLibrary "library"]

/-- Both containers added. -/
def sampleAdditions : List Command :=
  [.addToLibrary "library" "first", .addToLibrary "library" "second"]

theorem publications_found_sample :
    (after sampleTwinShelf fresh).slots["library"]?
        = some (.library .empty)
      ∧ Library.empty.containers = ∅
      ∧ (∀ c ∈ sampleAdditions, c.growsLibrary "library" = true)
      ∧ (let w := after sampleAdditions (after sampleTwinShelf fresh)
         ∃ l b k, w.slots["library"]? = some (.library l) ∧ Finds w l "u" 1 b k) := by
  have hslot := newLibrary_slot sampleTwins "library"
  have hlife : ∀ c ∈ sampleAdditions, c.growsLibrary "library" = true := by decide
  refine ⟨hslot, rfl, hlife, ?_⟩
  intro w
  obtain ⟨l, hl, hfinds⟩ :=
    publications_found sampleTwinShelf sampleAdditions "library" "u" .empty hslot rfl hlife
  have hregistered : (w.slots["library"]?.bind Holding.library?).map
      (fun l => (l.containers["a"]?, l.containers["b"]?)) = some (some 0, some 1) := by
    decide +kernel
  have hcarries : (w.containers.get? 0).map (w.carries "u") = some true := by decide +kernel
  have hlast : (carriersAdded "library" "u" sampleAdditions
      (after sampleTwinShelf fresh)).getLast? = some 1 := by decide +kernel
  obtain ⟨c, hc, hcu⟩ := Option.map_eq_some_iff.mp hcarries
  rw [hl] at hregistered
  obtain ⟨hfirst, hsecond⟩ := Prod.mk.inj (Option.some.inj hregistered)
  obtain ⟨last, hlast', hfound⟩ := hfinds "a" 0 c hfirst hc (carries_iff.mp hcu)
  rw [hlast, Option.some.injEq] at hlast'
  subst hlast'
  rcases hfound with ⟨b, k, hfound⟩ | ⟨hnone, -⟩
  · exact ⟨l, b, k, hl, hfound⟩
  · exact absurd hsecond (hnone "b")

/-- The container added last is then replaced by one without the identifier. -/
def sampleReplacement : List Command :=
  sampleTwinShelf ++ sampleAdditions
    ++ [.register "b" sampleArchive, .openContainer "b" .default "third",
      .addToLibrary "library" "third"]

/-- A publication that is registered and not found: its container stands under
its path, and the library knows its identifier no more. -/
theorem replaced_twin_hides_publication :
    let w := after sampleReplacement fresh
    (w.containers.get? 0).map (fun c => (c.path, c.isClosed, w.publications c))
        = some ("a", false, [(0, some "u")])
      ∧ (w.slots["library"]?.bind Holding.library?).map (fun l =>
          (l.containers["a"]?, l.pathForUniqueId "u", l.packageForUniqueId "u"))
          = some (some 0, none, none) := by
  decide +kernel

end Host

end EpubAccess
