/-
  EpubAccess.Proofs.Ownership.Libraries
  ────────────────────────────────
  Libraries and the containers that they own.

  A container that another one replaces is torn down before the library
  gives it up, and closing a library tears its containers down one after the
  other, in whatever order.  Both leave a sound host (`addToLibrary_reaches`,
  `closeLibraryIn_reaches`).
-/
import EpubAccess.Proofs.Ownership.Loading

namespace EpubAccess

/-! ## §1. What a library owns after a change. -/

namespace Library

variable {l : Library} {path : String} {c j : ContainerId} {k : PackageId}

theorem mem_containerIds : j ∈ l.containerIds ↔ ∃ a : String, l.containers[a]? = some j :=
  OrderedMap.mem_values l.containers j

theorem mem_packageIds : k ∈ l.packageIds ↔
    ∃ (a : String) (e : LibraryEntry), l.entries[a]? = some e ∧ e.package = some k := by
  show k ∈ l.entries.values.filterMap LibraryEntry.package ↔ _
  simp only [List.mem_filterMap, OrderedMap.mem_values]
  constructor
  · rintro ⟨e, ⟨a, ha⟩, he⟩
    exact ⟨a, e, ha, he⟩
  · rintro ⟨a, e, ha, he⟩
    exact ⟨e, ⟨a, ha⟩, he⟩

/-- Registering a container displaces at most the one that it replaces. -/
theorem mem_setContainer (hj : j ∈ l.containerIds) :
    j ∈ (l.setContainer path c).containerIds ∨ l.replaced? path c = some j := by
  obtain ⟨a, ha⟩ := mem_containerIds.mp hj
  -- only the container under the same path can be displaced, by another one
  by_cases hp : path = a
  · by_cases hc : j = c
    · refine .inl (mem_containerIds.mpr ⟨path, ?_⟩)
      simp [setContainer, hc]
    · refine .inr ?_
      simp [replaced?, hp, ha, Option.filter, hc]
  · refine .inl (mem_containerIds.mpr ⟨a, ?_⟩)
    simp [setContainer, Std.ExtTreeMap.getElem?_insert, hp, ha]

/-- Forgetting packages forgets no others. -/
theorem mem_forget (ks : List PackageId) (hk : k ∈ l.packageIds) :
    k ∈ (l.forget ks).packageIds ∨ k ∈ ks := by
  obtain ⟨a, e, ha, he⟩ := mem_packageIds.mp hk
  by_cases hks : k ∈ ks
  · exact .inr hks
  · refine .inl (mem_packageIds.mpr ⟨a, e, ?_, he⟩)
    simp [forget, Std.ExtTreeMap.getElem?_filter, ha, he, hks]

/-- Entering packages registers no container. -/
theorem enterAll_containers (path : String) (xs : List (PackageId × Option String)) :
    (l.enterAll path xs).2.containers = l.containers := by
  induction xs generalizing l with
  | nil => rfl
  | cons x xs ih =>
    obtain ⟨p, _ | id⟩ := x
    · exact ih
    · exact ih (l := l.enter path id p)

end Library

namespace Host

open Stateful

variable {calm : Prop} {T : String → Prop} {w : Host} {hs : List OwnedHandle}
  {cs : List ContainerId} {ps : List PackageId} {slot : String}

/-- A library fits into any slot. -/
theorem Fits.library (e : Engine) (l : Library) : Fits calm e (.library l) :=
  ⟨fun _ h => absurd h (by simp), fun _ h => absurd h (by simp [Holding.handle?]),
    fun _ h => absurd h (by simp)⟩

/-- A library replaced by its later state; what it gave up is left as debts. -/
theorem Reaches.updateLibrary {l : Library} (l' : Library) (hw : Sound calm w ⟨hs, cs, ps, []⟩)
    (hT : T slot) (hl : w.slots[slot]? = some (.library l)) :
    Reaches calm T 0 w (update slot (.library l') w).2
      ⟨hs, l.containerIds ++ cs, l.packageIds ++ ps, []⟩ :=
  .replace hw hT hl rfl rfl (.library _ l') (fun _ h => .inr (List.mem_append.mpr h))
    fun _ h => .inr (List.mem_append.mpr h)

theorem containerOwned_of_library {l : Library} {j : ContainerId}
    (hl : w.slots[slot]? = some (.library l)) (hj : j ∈ l.containerIds) :
    w.containerOwned j = true :=
  (w.containerOwned_iff j).mpr ⟨slot, _, hl, hj⟩

theorem packageOwned_of_library {l : Library} {k : PackageId}
    (hl : w.slots[slot]? = some (.library l)) (hk : k ∈ l.packageIds) :
    w.packageOwned k = true :=
  (w.packageOwned_iff k).mpr (.inl ⟨slot, _, hl, hk⟩)

theorem update_slot (o : Holding) : (update slot o w).2.slots[slot]? = some o := by
  show (w.slots.insert slot o)[slot]? = _
  simp

/-- Work that touches no slot leaves them all. -/
theorem Reaches.slots_same {w' : Host} {d : Debts} (h : Reaches calm (fun _ => False) 0 w w' d)
    (m : String) : w'.slots[m]? = w.slots[m]? := by
  obtain ⟨new, hev⟩ := h.evolves
  exact hev.slots m id

/-! ## §2. A container that makes way. -/

/-- A container closed unless it is; its list stays. -/
theorem closeContainerIfOpen_kept {id : ContainerId} {c : Container}
    (hw : Sound calm w ⟨hs, cs, ps, []⟩) (hc : w.containers.get? id = some c) :
    ∃ c', (closeContainerIfOpen id w).2.containers.get? id = some c'
      ∧ c'.packages = c.packages := by
  unfold closeContainerIfOpen
  rw [get_bind_apply]
  simp only [hc]
  by_cases hr : c.isClosed = true
  · rw [if_pos hr]
    exact ⟨c, hc, rfl⟩
  · rw [if_neg hr]
    obtain ⟨-, -, hget, -⟩ := closeContainer_torn (T := fun _ => False) hw
      (standing?_eq_some.mpr ⟨hc, by simpa [Container.isClosed] using hr⟩)
    exact ⟨_, hget, rfl⟩

/-- The container that another one replaces makes way. -/
theorem retire_reaches {l : Library} (l' : Library) (previous : ContainerId)
    (hw : Sound calm w ⟨hs, cs, ps, []⟩) (hT : T slot)
    (hl : w.slots[slot]? = some (.library l)) (hentries : l'.entries = l.entries)
    (hcs : ∀ j ∈ l.containerIds, j ∈ l'.containerIds ∨ j = previous) :
    Reaches calm T 0 w (retire slot l' previous w).2 ⟨hs, cs, ps, []⟩
      ∧ ∃ l1, (retire slot l' previous w).2.slots[slot]? = some (.library l1)
        ∧ (∀ j ∈ l1.containerIds, j ∈ (retire slot l' previous w).1.containerIds
            ∨ (retire slot l' previous w).2.containers.get? j = none)
        ∧ ∀ k ∈ l1.packageIds, k ∈ (retire slot l' previous w).1.packageIds := by
  have hids : l'.packageIds = l.packageIds := by
    unfold Library.packageIds
    rw [hentries]
  unfold retire
  rw [get_bind_apply]
  cases hc : w.containers.get? previous with
  | none =>
    refine ⟨.refl hw, l, hl, fun j hj => ?_, fun k hk => hids.symm ▸ hk⟩
    rcases hcs j hj with h | rfl
    · exact .inl h
    · exact .inr hc
  | some c =>
    simp only [bind_apply, through_apply, pure_apply]
    let l1 : Library := l'.forget c.packages
    let w0 : Host := { w with gateway := (Gateway.emit (.containerReplaced c.path) w.gateway).2 }
    have hnote : ∀ T, Reaches calm T 0 w w0 ⟨hs, cs, ps, []⟩ :=
      fun _ => .same hw rfl rfl rfl rfl rfl
    have hclose : ∀ T, Reaches calm T 0 w0 (closeContainerIfOpen previous w0).2 ⟨hs, cs, ps, []⟩ :=
      fun T => closeContainerIfOpen_reaches previous (hnote T).sound
    obtain ⟨c', hc', hlist⟩ := closeContainerIfOpen_kept (hnote T).sound hc
    have hl0 : (closeContainerIfOpen previous w0).2.slots[slot]? = some (.library l) :=
      ((hclose _).slots_same slot).trans hl
    generalize (closeContainerIfOpen previous w0).2 = w1 at hclose hc' hl0 ⊢
    have hupdate := Reaches.updateLibrary (T := T) l1 (hclose T).sound hT hl0
    have hslot : (update slot (.library l1) w1).2.slots[slot]? = some (.library l1) := update_slot _
    have hc2 : (update slot (.library l1) w1).2.containers.get? previous = some c' := hc'
    generalize (update slot (.library l1) w1).2 = w2 at hupdate hslot hc2 ⊢
    -- the packages that are forgotten still belong to the container
    have hsettled : Sound calm w2 ⟨hs, previous :: cs, ps, []⟩ := by
      refine hupdate.sound.settle (fun j hj _ _ => ?_) fun k hk _ _ => ?_
      · rcases List.mem_append.mp hj with hj | hj
        · rcases hcs j hj with h | rfl
          · exact .inl (containerOwned_of_library hslot h)
          · exact .inr (List.mem_cons_self ..)
        · exact .inr (List.mem_cons_of_mem _ hj)
      · rcases List.mem_append.mp hk with hk | hk
        · rcases Library.mem_forget c.packages (hids.symm ▸ hk) with h | h
          · exact .inl (packageOwned_of_library hslot h)
          · exact .inl ((w2.packageOwned_iff k).mpr (.inr ⟨previous, c', hc2, hlist ▸ h⟩))
        · exact .inr hk
    have hdrop : ∀ T, Reaches calm T 0 w2 (dropContainer previous w2).2 ⟨hs, cs, ps, []⟩ :=
      fun T => dropContainer_reaches hsettled
    have hupdate' : Reaches calm T 0 w1 w2 ⟨hs, previous :: cs, ps, []⟩ :=
      ⟨hsettled, hupdate.evolves⟩
    refine ⟨(((hnote T).trans (hclose T)).trans hupdate').trans (hdrop T), l1, ?_,
      fun j hj => .inl hj, fun k hk => hk⟩
    exact ((hdrop _).slots_same slot).trans hslot

/-! ## §3. Adding and closing. -/

/-- Some events, one after the other. -/
theorem emits_reaches {α : Type} (f : α → Event) (xs : List α)
    (hw : Sound calm w ⟨hs, cs, ps, []⟩) :
    Reaches calm T 0 w (xs.forM (fun x => through (Gateway.emit (f x))) w).2 ⟨hs, cs, ps, []⟩ := by
  induction xs generalizing w with
  | nil => exact .refl hw
  | cons x xs ih =>
    have hone : Reaches calm T 0 w { w with gateway := (Gateway.emit (f x) w.gateway).2 }
        ⟨hs, cs, ps, []⟩ := .same hw rfl rfl rfl rfl rfl
    exact hone.trans (ih hone.sound)

theorem emits_containers {α : Type} (f : α → Event) (xs : List α) :
    (xs.forM (fun x => through (Gateway.emit (f x))) w).2.containers = w.containers := by
  induction xs generalizing w with
  | nil => rfl
  | cons x xs ih => exact ih

/-- The publications of a container entered, once the way is free: the slot
still holds a library that owns no more than the new one. -/
theorem enter_reaches {l1 l : Library} (c : Container) (hw : Sound calm w ⟨hs, cs, ps, []⟩)
    (hT : T slot) (hl : w.slots[slot]? = some (.library l1))
    (hcs : ∀ j ∈ l1.containerIds, j ∈ l.containerIds ∨ w.containers.get? j = none)
    (hps : ∀ k ∈ l1.packageIds, k ∈ l.packageIds) :
    Reaches calm T 0 w ((do
        let w ← get
        let (count, entered) := l.enterAll c.path (w.publications c)
        (w.unidentified c).forM fun h => through (Gateway.emit (.packageWithoutId h c.path))
        update slot (.library entered)
        l.packageIds.forM dropPackage
        pure count : StateM Host Nat) w).2 ⟨hs, cs, ps, []⟩ := by
  simp only [bind_apply, get_apply, pure_apply]
  have hentered := Library.enterAll_containers (l := l) c.path (w.publications c)
  generalize l.enterAll c.path (w.publications c) = entered at hentered ⊢
  have hemit : ∀ T, Reaches calm T 0 w ((w.unidentified c).forM
      (fun h => through (Gateway.emit (.packageWithoutId h c.path))) w).2 ⟨hs, cs, ps, []⟩ :=
    fun T => emits_reaches _ _ hw
  have hcont := emits_containers (w := w) (.packageWithoutId · c.path) (w.unidentified c)
  have hl2 := ((hemit _).slots_same slot).trans hl
  generalize ((w.unidentified c).forM
    (fun h => through (Gateway.emit (.packageWithoutId h c.path))) w).2 = w2 at hemit hl2 hcont ⊢
  have hupdate := Reaches.updateLibrary (T := T) entered.2 (hemit T).sound hT hl2
  have hslot : (update slot (.library entered.2) w2).2.slots[slot]? = some (.library entered.2) :=
    update_slot _
  have hget : (update slot (.library entered.2) w2).2.containers = w.containers := hcont
  generalize (update slot (.library entered.2) w2).2 = w3 at hupdate hslot hget ⊢
  have hsettled : Sound calm w3 ⟨hs, cs, l.packageIds ++ ps, []⟩ := by
    refine hupdate.sound.settle (fun j hj b hb => ?_) fun k hk _ _ => ?_
    · rcases List.mem_append.mp hj with hj | hj
      · rcases hcs j hj with h | h
        · refine .inl (containerOwned_of_library hslot ?_)
          unfold Library.containerIds
          rw [hentered]
          exact h
        · rw [hget, h] at hb
          exact absurd hb (by simp)
      · exact .inr hj
    · rcases List.mem_append.mp hk with hk | hk
      · exact .inr (List.mem_append_left _ (hps k hk))
      · exact .inr (List.mem_append_right _ hk)
  have hupdate' : Reaches calm T 0 w2 w3 ⟨hs, cs, l.packageIds ++ ps, []⟩ :=
    ⟨hsettled, hupdate.evolves⟩
  exact ((hemit T).trans hupdate').trans (dropPackages_reaches _ hsettled)

/-- **A container added to a library.** -/
theorem addToLibrary_reaches {l : Library} (id : ContainerId) (hw : Sound calm w ⟨hs, cs, ps, []⟩)
    (hT : T slot) (hl : w.slots[slot]? = some (.library l)) :
    Reaches calm T 0 w (addToLibrary slot l id w).2 ⟨hs, cs, ps, []⟩ := by
  unfold addToLibrary
  rw [get_bind_apply]
  cases hc : w.containers.get? id with
  | none => exact .refl hw
  | some c =>
    have hset : ∀ j ∈ l.containerIds, j ∈ (l.setContainer c.path id).containerIds
        ∨ l.replaced? c.path id = some j := fun j hj => Library.mem_setContainer hj
    dsimp only
    -- the way is free, or the previous container makes way first
    cases hp : l.replaced? c.path id with
    | none =>
      refine enter_reaches (l := l.setContainer c.path id) c hw hT hl (fun j hj => ?_)
        fun k hk => hk
      refine (hset j hj).imp_right fun h => ?_
      rw [hp] at h
      exact absurd h (by simp)
    | some previous =>
      obtain ⟨hretire, l1, hl1, hcs1, hps1⟩ := retire_reaches (T := T) (l.setContainer c.path id)
        previous hw hT hl rfl fun j hj => (hset j hj).imp_right fun h => by
          rw [hp] at h
          exact (Option.some.inj h).symm
      dsimp only
      rw [bind_apply]
      exact hretire.trans (enter_reaches c hretire.sound hT hl1 hcs1 hps1)

/-- Containers closed and given up, one after the other. -/
theorem closeAndDrop_reaches (ids : List ContainerId) (hw : Sound calm w ⟨hs, ids ++ cs, ps, []⟩) :
    Reaches calm T 0 w (ids.forM closeAndDrop w).2 ⟨hs, cs, ps, []⟩ := by
  -- the containers further down are owed until their turn comes
  induction ids generalizing w with
  | nil => exact .refl hw
  | cons id ids ih =>
    have hclose : Reaches calm T 0 w (closeContainerIfOpen id w).2
        ⟨hs, id :: (ids ++ cs), ps, []⟩ :=
      closeContainerIfOpen_reaches id hw
    have hdrop := dropContainer_reaches (T := T) hclose.sound
    exact (hclose.trans hdrop).trans (ih hdrop.sound)

/-- **Every container of a library closed**, in whatever order. -/
theorem closeLibraryIn_reaches {l : Library} (order : List ContainerId)
    (horder : ∀ j ∈ l.containerIds, j ∈ order) (hw : Sound calm w ⟨hs, cs, ps, []⟩) (hT : T slot)
    (hl : w.slots[slot]? = some (.library l)) :
    Reaches calm T 0 w (closeLibraryIn order slot l w).2 ⟨hs, cs, ps, []⟩ := by
  unfold closeLibraryIn
  simp only [bind_apply, modify_apply]
  have hnote : Reaches calm T 0 w { w with libraryClosed := true } ⟨hs, cs, ps, []⟩ :=
    .same hw rfl rfl rfl rfl rfl
  have hforget := Reaches.updateLibrary (T := T) l.forgetContainers hnote.sound hT hl
  have hslot1 : (update slot (.library l.forgetContainers)
      { w with libraryClosed := true }).2.slots[slot]? = some (.library l.forgetContainers) :=
    update_slot _
  generalize (update slot (.library l.forgetContainers) { w with libraryClosed := true }).2 = w1
    at hforget hslot1 ⊢
  -- the entries are still there, and with them the packages
  have hsettled : Sound calm w1 ⟨hs, order ++ cs, ps, []⟩ := by
    refine hforget.sound.settle (fun j hj _ _ => .inr ?_) fun k hk _ _ => ?_
    · exact (List.mem_append.mp hj).elim (fun h => List.mem_append_left _ (horder j h))
        (List.mem_append_right _)
    rcases List.mem_append.mp hk with hk | hk
    · exact .inl (packageOwned_of_library hslot1 hk)
    · exact .inr hk
  have hclose : ∀ T, Reaches calm T 0 w1 (order.forM closeAndDrop w1).2 ⟨hs, cs, ps, []⟩ :=
    fun T => closeAndDrop_reaches order hsettled
  have hslot2 := ((hclose _).slots_same slot).trans hslot1
  generalize (order.forM closeAndDrop w1).2 = w2 at hclose hslot2 ⊢
  have hempty := Reaches.updateLibrary (T := T) l.forgetObjects (hclose T).sound hT hslot2
  generalize (update slot (.library l.forgetObjects) w2).2 = w3 at hempty ⊢
  have hsettled' : Sound calm w3 ⟨hs, cs, l.packageIds ++ ps, []⟩ := by
    refine hempty.sound.settle (fun j hj _ _ => .inr ?_) fun _ h _ _ => .inr h
    rcases List.mem_append.mp hj with hj | hj
    · obtain ⟨a, ha⟩ := Library.mem_containerIds.mp hj
      exact absurd ha (by simp [Library.forgetContainers])
    · exact hj
  have hforget' : Reaches calm T 0 { w with libraryClosed := true } w1
      ⟨hs, order ++ cs, ps, []⟩ := ⟨hsettled, hforget.evolves⟩
  have hempty' : Reaches calm T 0 w2 w3 ⟨hs, cs, l.packageIds ++ ps, []⟩ :=
    ⟨hsettled', hempty.evolves⟩
  exact (((hnote.trans hforget').trans (hclose T)).trans hempty').trans
    (dropPackages_reaches _ hsettled')

end Host

end EpubAccess
