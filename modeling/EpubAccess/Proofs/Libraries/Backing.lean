/-
  EpubAccess.Proofs.Libraries.Backing
  ────────────────────────────────
  What stands behind the entries of a library.

  Containers and entries of a library are two maps with different keys.
  `Host.Backed` says how they belong together: a package is entered under its
  identifier, and the container registered under the path of the entry lists
  it.  Adding a container keeps this up, since what makes way takes its
  packages out of the entries (`Backed.cleared`) before those of the new one
  are entered (`Backed.enterAll`); closing a library leaves no package at any
  entry.  So every library of a host is backed, whatever else the host does
  (`Host.LibrariesBacked.step`).

  A container that a library gave up is closed (`Host.Listed.step`), and one
  that it registers stands as long as nobody else closes it
  (`Host.Tended.step`).  `Host.library_entries_backed` puts these together.
-/
import EpubAccess.Proofs.Lifetimes.Commands

namespace EpubAccess

open Stateful

/-- Does the command close no container and no package by itself, and use no
library but the one in the slot? -/
def Command.tends (slot : String) : Command → Bool
  | .container _ .close | .package _ .close => false
  | .addToLibrary s _ | .closeLibrary s => s == slot
  | _ => true

/-- Does the command leave the library in the slot there, whatever it does to it? -/
def Command.keepsLibrary (slot : String) : Command → Bool
  | .addToLibrary .. | .closeLibrary _ => true
  | c => !c.writes.contains slot

namespace Host

variable {S : Scope} {w w' : Host} {slot : String} {l : Library} {id : ContainerId} {c : Container}

/-! ## §1. Backed libraries. -/

/-- What a library says of its containers and packages is so. -/
structure Backed (w : Host) (l : Library) : Prop where
  /-- A container is registered under its own path. -/
  registered : ∀ (path : String) id, l.containers[path]? = some id →
    ∃ c, w.containers.get? id = some c ∧ c.path = path
  /-- A package is entered under its identifier. -/
  identified : ∀ (u : String) e k, l.entries[u]? = some e → e.package = some k →
    ∃ p, w.packages.get? k = some p ∧ p.metadata.uniqueId = some u
  /-- The container registered under the path of an entry lists the package. -/
  listed : ∀ (u : String) e k, l.entries[u]? = some e → e.package = some k →
    ∃ id c, l.containers[e.path]? = some id ∧ w.containers.get? id = some c ∧ k ∈ c.packages

namespace Backed

/-- A library that owns nothing says nothing. -/
theorem of_bare (h : l.containerIds = [] ∧ l.packageIds = []) : Backed w l := by
  have hentry : ∀ (u : String) e k, l.entries[u]? = some e → e.package = some k → False := by
    intro u e k he hek
    have hmem : k ∈ l.packageIds := Library.mem_packageIds.mpr ⟨u, e, he, hek⟩
    exact absurd (h.2 ▸ hmem) List.not_mem_nil
  refine ⟨fun path id hid => ?_, fun u e k he hek => (hentry u e k he hek).elim,
    fun u e k he hek => (hentry u e k he hek).elim⟩
  have hmem : id ∈ l.containerIds := Library.mem_containerIds.mpr ⟨path, hid⟩
  exact absurd (h.1 ▸ hmem) List.not_mem_nil

/-- Later hosts keep to what a library says. -/
theorem later (h : Backed w l) (hlater : Later S w w') (hl : w'.Stocked l) : Backed w' l := by
  have hcontainer : ∀ (path : String) id, l.containers[path]? = some id → ∀ c,
      w.containers.get? id = some c → ∃ c', w'.containers.get? id = some c' ∧ c.Later c' := by
    intro path id hid c hc
    obtain ⟨c', hc'⟩ := hl.1 id (Library.mem_containerIds.mpr ⟨path, hid⟩)
    exact ⟨c', hc', hlater.container hc hc'⟩
  -- paths and identifiers are for good, and the list of a container only gains
  refine ⟨fun path id hid => ?_, fun u e k he hek => ?_, fun u e k he hek => ?_⟩
  · obtain ⟨c, hc, hpath⟩ := h.registered path id hid
    obtain ⟨c', hc', hl⟩ := hcontainer path id hid c hc
    exact ⟨c', hc', hl.path.trans hpath⟩
  · obtain ⟨p, hp, hu⟩ := h.identified u e k he hek
    obtain ⟨p', hp'⟩ := hl.2 k (Library.mem_packageIds.mpr ⟨u, e, he, hek⟩)
    exact ⟨p', hp', by rw [(hlater.package hp hp').metadata, hu]⟩
  · obtain ⟨id, c, hid, hc, hk⟩ := h.listed u e k he hek
    obtain ⟨c', hc', hl⟩ := hcontainer e.path id hid c hc
    exact ⟨id, c', hid, hc', hl.mem hk⟩

/-- A container registered under two paths would have both. -/
theorem path_unique (h : Backed w l) {a b : String} (ha : l.containers[a]? = some id)
    (hb : l.containers[b]? = some id) : a = b := by
  obtain ⟨c, hc, rfl⟩ := h.registered a id ha
  obtain ⟨d, hd, rfl⟩ := h.registered b id hb
  rw [hc, Option.some.injEq] at hd
  rw [hd]

end Backed

/-- Without a container to make way the entries stay. -/
theorem cleared_entries_of_none {path : String} (h : l.replaced? path id = none) :
    (w.cleared l path id).entries = l.entries := by
  unfold cleared
  rw [h, Option.bind_none]
  rfl

/-- The container that makes way takes its packages out of the entries. -/
theorem cleared_entry_of_some {path : String} {j : ContainerId} {b : Container}
    (h : l.replaced? path id = some j) (hb : w.containers.get? j = some b) (u : String) :
    (w.cleared l path id).entries[u]?
      = (l.entries[u]?).filter fun e => !(e.package.any fun k => b.packages.contains k) := by
  unfold cleared
  rw [h, Option.bind_some, hb]
  exact (l.setContainer path id).forget_entry u b.packages

namespace Backed

/-- **A container takes the place of another one**, which takes its packages
along. -/
theorem cleared (h : Backed w l) (hc : w.containers.get? id = some c) :
    Backed w (w.cleared l c.path id) := by
  have hcontainers := w.cleared_containers l c.path id
  -- what is left at the entries belongs to other paths, or to the same container
  have hleft : ∀ (u : String) e k, (w.cleared l c.path id).entries[u]? = some e →
      e.package = some k → l.entries[u]? = some e
        ∧ ∀ j b, l.containers[c.path]? = some j → w.containers.get? j = some b →
            k ∈ b.packages → j = id := by
    intro u e k he hek
    cases hr : l.replaced? c.path id with
    | none =>
      rw [cleared_entries_of_none hr] at he
      refine ⟨he, fun j b hj hb hk => ?_⟩
      unfold Library.replaced? at hr
      rw [hj] at hr
      simpa using hr
    | some j =>
      obtain ⟨hj, -⟩ := l.replaced?_eq_some c.path hr
      obtain ⟨b, hb, -⟩ := h.registered c.path j hj
      rw [cleared_entry_of_some hr hb, Option.filter_eq_some_iff, hek] at he
      refine ⟨he.1, fun i d hi hd hk => ?_⟩
      rw [hj, Option.some.injEq] at hi
      rw [← hi, hb, Option.some.injEq] at hd
      exact absurd he.2 (by simp [hd, hk])
  refine ⟨fun path j hj => ?_, fun u e k he hek => ?_, fun u e k he hek => ?_⟩
  · rw [hcontainers, Std.ExtTreeMap.getElem?_insert] at hj
    split at hj
    · next hpath => exact ⟨c, Option.some.inj hj ▸ hc, Std.LawfulEqCmp.compare_eq_iff_eq.mp hpath⟩
    · exact h.registered path j hj
  · exact h.identified u e k (hleft u e k he hek).1 hek
  · obtain ⟨hentry, hsame⟩ := hleft u e k he hek
    obtain ⟨j, b, hj, hb, hk⟩ := h.listed u e k hentry hek
    refine ⟨j, b, ?_, hb, hk⟩
    rw [hcontainers, Std.ExtTreeMap.getElem?_insert]
    split
    · next hpath =>
      rw [Std.LawfulEqCmp.compare_eq_iff_eq] at hpath
      rw [hsame j b (hpath ▸ hj) hb hk]
    · exact hj

/-- **The publications of a registered container entered.** -/
theorem enterAll (h : Backed w l) (hid : l.containers[c.path]? = some id)
    (hc : w.containers.get? id = some c) :
    Backed w (l.enterAll c.path (w.publications c)).2 := by
  have hcontainers : (l.enterAll c.path (w.publications c)).2.containers = l.containers :=
    Library.enterAll_containers _ _
  -- an entry was there before, or it is one of the container
  have hentry : ∀ (u : String) e k, (l.enterAll c.path (w.publications c)).2.entries[u]? = some e →
      e.package = some k →
      l.entries[u]? = some e ∨ e.path = c.path ∧ (k, some u) ∈ w.publications c := by
    intro u e k he hek
    rcases l.enterAll_entry c.path u (w.publications c) with ⟨hsame, -⟩ | ⟨j, hj, hnew⟩
    · exact .inl (hsame.symm.trans he)
    · rw [hnew, Option.some.injEq] at he
      subst he
      exact .inr ⟨rfl, Option.some.inj hek ▸ hj⟩
  refine ⟨fun path j hj => h.registered path j (hcontainers ▸ hj), fun u e k he hek => ?_,
    fun u e k he hek => ?_⟩
  · rcases hentry u e k he hek with hold | ⟨-, hnew⟩
    · exact h.identified u e k hold hek
    · exact (mem_publications.mp hnew).2
  · rw [hcontainers]
    rcases hentry u e k he hek with hold | ⟨hpath, hnew⟩
    · exact h.listed u e k hold hek
    · exact ⟨id, c, hpath ▸ hid, hc, (mem_publications.mp hnew).1⟩

/-- A library after a container was added. -/
theorem added (h : Backed w l) (hc : w.containers.get? id = some c) : Backed w (w.added l id c) :=
  (h.cleared hc).enterAll (by rw [cleared_containers]; simp) hc

end Backed

/-! ## §2. Every library of a host. -/

/-- Every library of the host is backed. -/
def LibrariesBacked (w : Host) : Prop :=
  ∀ (m : String) l, w.slots[m]? = some (.library l) → Backed w l

/-- **One command leaves every library backed.** -/
theorem LibrariesBacked.step {c : Command} (h : LibrariesBacked w)
    (hlater : Later (w.scope c) w (run c w).2) : LibrariesBacked (run c w).2 := by
  intro m l hl
  have hstocked := hlater.after.stocked hl
  rcases hlater.slots m with hsame | hput
  · exact (h m l (hsame.symm.trans hl)).later hlater hstocked
  rw [hl] at hput
  cases hput with
  | plain _ ho => exact absurd ho (by simp [Holding.isPlain])
  | newLibrary => exact .of_bare Library.empty_owns
  | loadedLibrary hread => exact .of_bare (Library.ofBytes?_owns hread)
  | addedTo hl₀ _ hc => exact ((h m _ hl₀).added hc).later hlater hstocked
  | @closedLibrary _ l₀ => exact .of_bare l₀.forgetObjects_owns

theorem librariesBacked_after (cs : List Command) : LibrariesBacked (after cs fresh) :=
  (after_induction cs .fresh (fun m l hl => absurd hl (by simp [fresh]))
    fun _ _ _ _ h hlater => h.step hlater).2

/-! ## §3. Containers that were added. -/

/-- The slot holds a library that registers the container, or else the
container does not stand. -/
def Listed (w : Host) (slot : String) (id : ContainerId) : Prop :=
  ∃ l, w.slots[slot]? = some (.library l)
    ∧ ((∃ path : String, l.containers[path]? = some id) ∨ w.Gone id)

/-- What becomes of a library under a command that leaves it in its slot. -/
inductive Turns (w : Host) (slot : String) (l : Library) : Command → Library → Prop
  | same (c : Command) : Turns w slot l c l
  | added {other : String} {id : ContainerId} {c : Container}
      (hid : w.slots[other]? = some (.container id)) (hc : w.containers.get? id = some c) :
      Turns w slot l (.addToLibrary slot other) (w.added l id c)
  | closed : Turns w slot l (.closeLibrary slot) l.forgetObjects

/-- A library that is left in its slot is as before, or it was added to or closed. -/
theorem run_turns {c : Command} (hlater : Later (w.scope c) w (run c w).2)
    (hl : w.slots[slot]? = some (.library l)) (hc : c.keepsLibrary slot = true) :
    ∃ l', (run c w).2.slots[slot]? = some (.library l') ∧ Turns w slot l c l' := by
  rcases hlater.slots slot with hsame | hput
  · exact ⟨l, hsame.trans hl, .same c⟩
  generalize (run c w).2.slots[slot]? = o at hput
  cases hput with
  | emptied => exact absurd hc (by simp [Command.keepsLibrary, Command.writes])
  | plain hm _ =>
    exfalso
    cases c <;> simp_all [Command.makes, Command.keepsLibrary, Command.writes]
  | newFetch | newLibrary | loadedLibrary =>
    exact absurd hc (by simp [Command.keepsLibrary, Command.writes])
  | fetched hf _ | handedOver hf _ => exact absurd (hl.symm.trans hf) (by simp)
  | addedTo hl₀ hid hc₀ =>
    obtain rfl : l = _ := by simpa using hl.symm.trans hl₀
    exact ⟨_, rfl, .added hid hc₀⟩
  | closedLibrary hl₀ =>
    obtain rfl : l = _ := by simpa using hl.symm.trans hl₀
    exact ⟨_, rfl, .closed⟩

/-- **A container that is not registered any more does not stand.** -/
theorem Listed.step {c : Command} (hw : Consistent w) (h : Listed w slot id)
    (hc : c.keepsLibrary slot = true) : Listed (run c w).2 slot id := by
  have hlater := run_later c hw
  obtain ⟨l, hl, hlisted⟩ := h
  obtain ⟨l', hl', hturns⟩ := run_turns hlater hl hc
  refine ⟨l', hl', ?_⟩
  rcases hlisted with ⟨path, hid⟩ | hgone
  swap
  · exact .inr (hlater.gone hgone)
  -- what goes out of the registry is closed by the command that puts it out
  have hcloses : Closes w c id → (run c w).2.Gone id := fun hcl => by
    obtain ⟨b, hb⟩ := (hw.stocked hl).1 id (Library.mem_containerIds.mpr ⟨path, hid⟩)
    exact ⟨Nat.lt_of_lt_of_le (hw.containerIds id b hb) hlater.containersNext, run_closes hw hcl⟩
  cases hturns with
  | same => exact .inl ⟨path, hid⟩
  | @added other j b hj hb =>
    by_cases hpath : b.path = path
    · by_cases hsame : id = j
      · exact .inl ⟨b.path, by rw [added_containers, hsame]; simp⟩
      · refine .inr (hcloses (.replaced hl hj hb ?_))
        rw [Library.replaced?, hpath, hid]
        simpa using hsame
    · refine .inl ⟨path, ?_⟩
      rw [added_containers, Std.ExtTreeMap.getElem?_insert, if_neg (by simpa using hpath), hid]
  | closed => exact .inr (hcloses (.library hl (Library.mem_containerIds.mpr ⟨path, hid⟩)))

/-- A container that is added is registered. -/
theorem Listed.start {other : String} (hw : Consistent w) (hl : w.slots[slot]? = some (.library l))
    (hid : w.slots[other]? = some (.container id)) :
    Listed (run (.addToLibrary slot other) w).2 slot id := by
  obtain ⟨c, hc⟩ := hw.ownedContainers other _ hid id (by simp [Holding.containers])
  refine ⟨w.added l id c, run_addToLibrary_slot hw hl hid hc, .inl ⟨c.path, ?_⟩⟩
  rw [added_containers]
  simp

theorem Listed.after {cs : List Command} (hw : Consistent w) (h : Listed w slot id)
    (hcs : ∀ c ∈ cs, c.keepsLibrary slot = true) : Listed (after cs w) slot id :=
  (after_induction (P := fun w => Listed w slot id) cs hw h
    fun c hc _ hw h _ => h.step hw (hcs c hc)).2

/-! ## §4. Libraries that nobody else closes for. -/

/-- Is the container open that a command adds to a library, if it adds one? -/
def addsOpen (c : Command) (w : Host) : Bool :=
  match c with
  | .addToLibrary _ other =>
    match w.slots[other]? with
    | some (.container id) => (w.standing? id).isSome
    | _ => true
  | _ => true

/-- The library in the slot is the only one, its containers stand, and a
package is closed only with its container. -/
structure Tended (slot : String) (w : Host) : Prop where
  backed : LibrariesBacked w
  alone : ∀ (m : String) l, m ≠ slot → w.slots[m]? = some (.library l) →
    ∀ path : String, l.containers[path]? = none
  standing : ∀ l (path : String) id, w.slots[slot]? = some (.library l) →
    l.containers[path]? = some id → ∃ c, w.standing? id = some c
  shut : ∀ k p, w.packages.get? k = some p → p.isClosed = true →
    ∃ link, p.link = some link ∧ w.Gone link.container

namespace Tended

theorem fresh (slot : String) : Tended slot Host.fresh := by
  refine ⟨?_, ?_, ?_, ?_⟩ <;> intros <;> simp_all [Host.fresh, LibrariesBacked]

/-- Only the library in the slot registers containers. -/
theorem step_alone {c : Command} (h : Tended slot w) (hlater : Later (w.scope c) w (run c w).2)
    (hc : c.tends slot = true) (m : String) (l : Library) (hm : m ≠ slot)
    (hl : (run c w).2.slots[m]? = some (.library l)) (path : String) :
    l.containers[path]? = none := by
  have hbare : ∀ l : Library, l.containerIds = [] → l.containers[path]? = none := by
    intro l hnil
    cases hid : l.containers[path]? with
    | none => rfl
    | some id =>
      have hmem : id ∈ l.containerIds := Library.mem_containerIds.mpr ⟨path, hid⟩
      exact absurd (hnil ▸ hmem) List.not_mem_nil
  rcases hlater.slots m with hsame | hput
  · exact h.alone m l hm (hsame.symm.trans hl) path
  rw [hl] at hput
  cases hput with
  | plain _ ho => exact absurd ho (by simp [Holding.isPlain])
  | newLibrary => exact hbare _ Library.empty_owns.1
  | loadedLibrary hread => exact hbare _ (Library.ofBytes?_owns hread).1
  | addedTo => exact absurd (show m = slot by simpa [Command.tends] using hc) hm
  | @closedLibrary _ l₀ => exact hbare _ l₀.forgetObjects_owns.1

/-- A container that is registered after a command stood before it. -/
theorem stood {c : Command} (h : Tended slot w) (hlater : Later (w.scope c) w (run c w).2)
    (ho : addsOpen c w = true) {path : String} (hl : (run c w).2.slots[slot]? = some (.library l))
    (hid : l.containers[path]? = some id) : ∃ b, w.standing? id = some b := by
  have hbare : ∀ l : Library, l.containerIds = [] → l.containers[path]? ≠ some id := by
    intro l hnil hid
    have hmem : id ∈ l.containerIds := Library.mem_containerIds.mpr ⟨path, hid⟩
    exact absurd (hnil ▸ hmem) List.not_mem_nil
  rcases hlater.slots slot with hsame | hput
  · exact h.standing l path id (hsame.symm.trans hl) hid
  rw [hl] at hput
  cases hput with
  | plain _ hplain => exact absurd hplain (by simp [Holding.isPlain])
  | newLibrary => exact absurd hid (hbare _ Library.empty_owns.1)
  | loadedLibrary hread => exact absurd hid (hbare _ (Library.ofBytes?_owns hread).1)
  | @closedLibrary _ l₀ => exact absurd hid (hbare _ l₀.forgetObjects_owns.1)
  | @addedTo _ other l₀ j b hl₀ hj _ =>
    rw [added_containers, Std.ExtTreeMap.getElem?_insert] at hid
    split at hid
    · -- the container that is added is open
      rw [← Option.some.inj hid]
      simp only [addsOpen, hj] at ho
      exact Option.isSome_iff_exists.mp ho
    · exact h.standing l₀ path id hl₀ hid

/-- What is registered stands. -/
theorem step_standing {c : Command} (hw : Consistent w) (h : Tended slot w)
    (hc : c.tends slot = true) (ho : addsOpen c w = true) {path : String}
    (hl : (run c w).2.slots[slot]? = some (.library l)) (hid : l.containers[path]? = some id) :
    ∃ b, (run c w).2.standing? id = some b := by
  have hlater := run_later c hw
  obtain ⟨b, hb⟩ := h.stood hlater ho hl hid
  cases hst : (run c w).2.standing? id with
  | some b' => exact ⟨b', rfl⟩
  | none =>
    exfalso
    rcases hlater.closed id b hb hst with hcloses | hnone
    · -- who closes it also puts it out of the registry
      cases hcloses with
      | container => exact absurd hc (by simp [Command.tends])
      | @replaced s other l₀ j _ d hl₀ hj hd hr =>
        obtain rfl : s = slot := by simpa [Command.tends] using hc
        rw [run_addToLibrary_slot hw hl₀ hj hd, Option.some.injEq, Holding.library.injEq] at hl
        obtain ⟨hold, hne⟩ := l₀.replaced?_eq_some d.path hr
        rw [← hl, added_containers, Std.ExtTreeMap.getElem?_insert] at hid
        split at hid
        · exact hne (Option.some.inj hid).symm
        · next hpath => exact hpath (by simpa using (h.backed s l₀ hl₀).path_unique hold hid)
      | @library s l₀ _ hl₀ _ =>
        obtain rfl : s = slot := by simpa [Command.tends] using hc
        rw [run_closeLibrary_slot hw hl₀, Option.some.injEq, Holding.library.injEq] at hl
        rw [← hl] at hid
        exact absurd hid (by simp [Library.forgetObjects])
    · obtain ⟨d, hd⟩ := (hlater.after.stocked hl).1 id (Library.mem_containerIds.mpr ⟨path, hid⟩)
      exact absurd (hnone.symm.trans hd) (by simp)

/-- **One command leaves the libraries tended.** -/
theorem step {c : Command} (hw : Consistent w) (h : Tended slot w) (hc : c.tends slot = true)
    (ho : addsOpen c w = true) : Tended slot (run c w).2 := by
  have hlater := run_later c hw
  refine ⟨h.backed.step hlater, h.step_alone hlater hc,
    fun l path id hl hid => h.step_standing hw hc ho hl hid, fun k p' hp' hr => ?_⟩
  rcases hlater.shut k p' hp' hr with ⟨p, hp, hbefore⟩ | hshut | hlink
  · obtain ⟨link, hlink, hgone⟩ := h.shut k p hp hbefore
    exact ⟨link, (hlater.package hp hp').link link hlink, hlater.gone hgone⟩
  · cases hshut with
    | package => exact absurd hc (by simp [Command.tends])
  · exact hlink

/-- Whatever is done, as long as it closes nothing and adds what is open. -/
theorem after {cs : List Command} (hw : Consistent w) (h : Tended slot w)
    (hcs : ∀ c ∈ cs, c.tends slot = true) (ho : throughout addsOpen cs w = true) :
    Tended slot (after cs w) := by
  -- the induction is on the commands, with what holds throughout the rest
  induction cs generalizing w with
  | nil => exact h
  | cons c cs ih =>
    obtain ⟨hone, hrest⟩ := Bool.and_eq_true_iff.mp ho
    exact ih (run_later c hw).after (h.step hw (hcs c (List.mem_cons_self ..)) hone)
      (fun d hd => hcs d (List.mem_cons_of_mem _ hd)) hrest

/-- A package that a tended library finds is open. -/
theorem found_open (hw : Consistent w) (h : Tended slot w)
    (hl : w.slots[slot]? = some (.library l)) {key : PackageKey} {k : PackageId}
    (hk : findPackage l key = some k) :
    ∃ p, w.packages.get? k = some p ∧ p.isClosed = false := by
  obtain ⟨u, e, he, hek⟩ := findPackage_entry hk
  obtain ⟨id, c, hid, hc, hmem⟩ := (h.backed slot l hl).listed u e k he hek
  obtain ⟨p, hp, hlink⟩ := hw.members id c hc k hmem
  refine ⟨p, hp, ?_⟩
  cases hr : p.isClosed with
  | false => rfl
  | true =>
    -- a closed package belongs to a container that does not stand, and this one does
    obtain ⟨link, hlink', hgone⟩ := h.shut k p hp hr
    obtain ⟨b, hb⟩ := h.standing l e.path id hl hid
    rw [hlink, Option.some.injEq] at hlink'
    rw [← hlink'] at hgone
    exact absurd (hb.symm.trans hgone.2) (by simp)

end Tended

/-! ## §5. Libraries over whole runs. -/

/-- **The entries of a library are backed.**  Whatever a host does, and whoever
closes what: in every library a container is registered under its own path, and
an entry with a package stands under its identifier and names the path of the
registered container that lists that very package.  A container that was added
to a library, and is not registered there any more, does not stand.  And if the
host closes nothing itself, uses one library, and adds to it containers that
are open, then the packages that the library finds are all open. -/
theorem library_entries_backed (cs : List Command) :
    let w := after cs fresh
    (∀ (slot : String) l, w.slots[slot]? = some (.library l) → Backed w l)
      ∧ (∀ (before between : List Command) (slot other : String) (l₀ : Library) id,
          cs = before ++ .addToLibrary slot other :: between →
          (after before fresh).slots[slot]? = some (.library l₀) →
          (after before fresh).slots[other]? = some (.container id) →
          (∀ c ∈ between, c.keepsLibrary slot = true) →
          ∃ l, w.slots[slot]? = some (.library l)
            ∧ ((∃ path : String, l.containers[path]? = some id) ∨ w.standing? id = none))
      ∧ ∀ slot : String, (∀ c ∈ cs, c.tends slot = true) → throughout addsOpen cs fresh = true →
          ∀ l key k, w.slots[slot]? = some (.library l) → findPackage l key = some k →
            ∃ p, w.packages.get? k = some p ∧ p.isClosed = false := by
  intro w
  have hw := consistent_after cs
  refine ⟨librariesBacked_after cs, fun before between slot other l₀ id hcs hl hid hkeeps => ?_,
    fun slot htends hopen l key k hl hk => ?_⟩
  · have hbefore := consistent_after before
    have hlisted : Listed w slot id := by
      rw [show w = _ from congrArg (after · fresh) hcs, after_append, after_cons]
      exact (Listed.start hbefore hl hid).after (run_later _ hbefore).after hkeeps
    obtain ⟨l, hl, hregistered⟩ := hlisted
    exact ⟨l, hl, hregistered.imp_right (·.2)⟩
  · exact (Tended.after .fresh (.fresh slot) htends hopen).found_open hw hl hk

/-- An archive with one package, which has an identifier. -/
def identifiedArchive (u : String) : Archive :=
  { Archive.empty with
    packages := [{ PackageDescription.empty with
      metadata := fun field => if field = .uniqueId then some u else none }] }

/-- A library, and the container of an archive added to it. -/
def sampleLibrary : List Command :=
  [.register "a" (identifiedArchive "u"), .openContainer "a" .default "first",
    .newLibrary "library", .addToLibrary "library" "first"]

theorem library_entries_backed_sample :
    (let w := after sampleLibrary fresh
     ∃ l, w.slots["library"]? = some (.library l) ∧ Backed w l
       ∧ findPackage l (.uniqueId "u") = some 0
       ∧ ∃ p, w.packages.get? 0 = some p ∧ p.isClosed = false)
      ∧ (let w := after (sampleLibrary ++ [.closeLibrary "library"]) fresh
         ∃ l, w.slots["library"]? = some (.library l)
           ∧ ((∃ path : String, l.containers[path]? = some 0) ∨ w.standing? 0 = none)) := by
  constructor
  · obtain ⟨l, hl, hk⟩ := Option.bind_eq_some_iff.mp (show
      ((after sampleLibrary fresh).slots["library"]?.bind Holding.library?).bind
        (findPackage · (.uniqueId "u")) = some 0 by decide +kernel)
    obtain ⟨hbacked, -, hfound⟩ := library_entries_backed sampleLibrary
    have hl' := Holding.eq_library hl
    exact ⟨l, hl', hbacked "library" l hl', hk,
      hfound "library" (by decide) (by decide +kernel) l (.uniqueId "u") 0 hl' hk⟩
  · -- the library is there before its container is added, and closed afterwards
    obtain ⟨l₀, hl₀⟩ := Option.isSome_iff_exists.mp (show
      ((after (sampleLibrary.take 3) fresh).slots["library"]?.bind Holding.library?).isSome
        = true by
        decide +kernel)
    have hid : (after (sampleLibrary.take 3) fresh).slots["first"]? = some (.container 0) :=
      Holding.eq_container (by decide +kernel)
    exact (library_entries_backed _).2.1 (sampleLibrary.take 3) [.closeLibrary "library"] "library"
      "first" l₀ 0 rfl (Holding.eq_library hl₀) hid (by decide)

end Host

end EpubAccess
