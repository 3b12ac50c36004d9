/-
  EpubAccess.Proofs.Lifetimes.Closing
  ────────────────────────────────
  Objects that are closed, and objects that go with their last owner.

  Closing several packages closes those and changes nothing else
  (`Closings`), so a container that is closed takes its packages with it
  (`closeContainer_later`).  What goes with its last owner leaves a later host
  whatever the scope (`dropPackage_later`, `dropContainer_later`), and so does
  the filling and emptying of slots (`store_later`, `clear_later`).
-/
import EpubAccess.Proofs.Lifetimes.Later

namespace EpubAccess.Host

open Stateful

variable {S : Scope} {w w' w'' : Host}

/-! ## §1. Packages closed. -/

/-- Of the packages those in `ks` were closed, and no other object changed. -/
structure Closings (ks : List PackageId) (w w' : Host) : Prop where
  issued : w.gateway.engine.issued ≤ w'.gateway.engine.issued
  containers : w'.containers = w.containers
  slots : w'.slots = w.slots
  next : w'.packages.next = w.packages.next
  kept : ∀ k p, w.packages.get? k = some p → ∃ p', w'.packages.get? k = some p'
  back : ∀ k p', w'.packages.get? k = some p' → ∃ p, w.packages.get? k = some p ∧ p.Later p'
    ∧ (p'.isClosed = true → p.isClosed = true ∨ k ∈ ks)
  done : ∀ k ∈ ks, ∀ p', w'.packages.get? k = some p' → p'.isClosed = true

namespace Closings

variable {ks ks' : List PackageId}

/-- Nothing to close, or nothing but gateway work for what is closed. -/
theorem none {g : Gateway} (hg : w.gateway.engine.issued ≤ g.engine.issued)
    (hdone : ∀ k ∈ ks, ∀ p, w.packages.get? k = some p → p.isClosed = true) :
    Closings ks w { w with gateway := g } :=
  ⟨hg, rfl, rfl, rfl, fun _ p h => ⟨p, h⟩, fun _ p h => ⟨p, h, .refl p, .inl⟩, hdone⟩

theorem trans (h : Closings ks w w') (h' : Closings ks' w' w'') : Closings (ks ++ ks') w w'' := by
  refine ⟨Nat.le_trans h.issued h'.issued, h'.containers.trans h.containers, h'.slots.trans h.slots,
    h'.next.trans h.next, fun k p hp => ?_, fun k p'' hp'' => ?_, fun k hk p'' hp'' => ?_⟩
  · obtain ⟨p', hp'⟩ := h.kept k p hp
    exact h'.kept k p' hp'
  · obtain ⟨p', hp', hlater', hreason'⟩ := h'.back k p'' hp''
    obtain ⟨p, hp, hlater, hreason⟩ := h.back k p' hp'
    refine ⟨p, hp, hlater.trans hlater', fun hr => ?_⟩
    rcases hreason' hr with hr' | hk
    · exact (hreason hr').imp_right (List.mem_append_left ks')
    · exact .inr (List.mem_append_right ks hk)
  · obtain ⟨p', hp', hlater', -⟩ := h'.back k p'' hp''
    rcases List.mem_append.mp hk with hk | hk
    · exact hlater'.isClosed (h.done k hk p' hp')
    · exact h'.done k hk p'' hp''

end Closings

/-- After a package was closed it is so, whoever did it. -/
theorem closePackage_closings (k : PackageId) (w : Host) : Closings [k] w (closePackage k w).2 := by
  unfold closePackage
  rw [get_bind_apply]
  cases hp : w.packages.get? k with
  | none =>
    refine .none (Nat.le_refl _) fun j hj q hq => ?_
    rw [List.mem_singleton.mp hj, hp] at hq
    exact absurd hq (by simp)
  | some p =>
    obtain ⟨hserved, hlater, hclosed⟩ := p.close_forward w.gateway
    simp only [bind_apply, through_apply, pure_apply]
    generalize p.close w.gateway = r at hserved hlater hclosed ⊢
    refine ⟨hserved.issued_le, rfl, rfl, rfl, fun j q hq => ?_, fun j q' hq' => ?_,
      fun j hj q' hq' => ?_⟩
    · by_cases hj : j = k
      · exact ⟨r.1.2, hj ▸ Pool.get?_set_self ..⟩
      · exact ⟨q, (Pool.get?_set_ne hj).trans hq⟩
    · rcases Pool.get?_set_eq_some.mp hq' with ⟨rfl, rfl⟩ | ⟨-, hq⟩
      · exact ⟨p, hp, hlater, fun _ => .inr (List.mem_singleton_self _)⟩
      · exact ⟨q', hq, .refl q', .inl⟩
    · rcases Pool.get?_set_eq_some.mp hq' with ⟨rfl, rfl⟩ | ⟨hne, -⟩
      · exact hclosed
      · exact absurd (List.mem_singleton.mp hj) hne

theorem closePackageIfOpen_closings (k : PackageId) (w : Host) :
    Closings [k] w (closePackageIfOpen k w).2 := by
  unfold closePackageIfOpen
  rw [get_bind_apply]
  cases hp : w.packages.get? k with
  | none =>
    refine .none (Nat.le_refl _) fun j hj q hq => ?_
    rw [List.mem_singleton.mp hj, hp] at hq
    exact absurd hq (by simp)
  | some p =>
    dsimp only
    by_cases hr : p.isClosed = true
    · rw [if_pos hr]
      refine .none (Nat.le_refl _) fun j hj q hq => ?_
      rw [List.mem_singleton.mp hj, hp, Option.some.injEq] at hq
      exact hq ▸ hr
    · rw [if_neg hr]
      exact closePackage_closings k w

theorem closePackages_closings (ks : List PackageId) (w : Host) :
    Closings ks w (ks.forM closePackageIfOpen w).2 := by
  induction ks generalizing w with
  | nil => exact .none (Nat.le_refl _) fun _ h => absurd h (by simp)
  | cons k ks ih => exact (closePackageIfOpen_closings k w).trans (ih _)

/-- Objects that fit together still do after packages were closed. -/
theorem Closings.consistent {ks : List PackageId} (h : Closings ks w w') (hw : Consistent w) :
    Consistent w' := by
  refine ⟨?_, fun k p' hp' => ?_, fun k p' hp' => ?_, fun id c hc k hk => ?_, ?_, ?_,
    fun m o ho k hk => ?_⟩
  · rw [h.containers]
    exact hw.containerIds
  · obtain ⟨p, hp, -⟩ := h.back k p' hp'
    rw [h.next]
    exact hw.packageIds k p hp
  · obtain ⟨p, hp, hlater, -⟩ := h.back k p' hp'
    exact hlater.handle.kind.trans (hw.kinds k p hp)
  · rw [h.containers] at hc
    obtain ⟨p, hp, hlink⟩ := hw.members id c hc k hk
    obtain ⟨p', hp'⟩ := h.kept k p hp
    obtain ⟨q, hq, hlater, -⟩ := h.back k p' hp'
    rw [hp, Option.some.injEq] at hq
    exact ⟨p', hp', hlater.link _ (hq ▸ hlink)⟩
  · rw [h.containers]
    exact hw.once
  · rw [h.containers, h.slots]
    exact hw.ownedContainers
  · rw [h.slots] at ho
    obtain ⟨p, hp⟩ := hw.ownedPackages m o ho k hk
    exact h.kept k p hp

/-- Packages closed on request. -/
theorem Closings.later {ks : List PackageId} (h : Closings ks w w') (hw : Consistent w)
    (hs : ∀ k ∈ ks, S.shutting k) : Later S w w' := by
  have hstanding : ∀ id, w'.standing? id = w.standing? id := fun id => by
    unfold standing?
    rw [h.containers]
  refine ⟨hw, h.consistent hw, h.issued, Nat.le_of_eq (by rw [h.containers]),
    Nat.le_of_eq h.next.symm, fun id c hc => ?_, fun k p' hp' => ?_,
    fun id c hst hst' => absurd (hst.symm.trans ((hstanding id).symm.trans hst')) (by simp),
    fun id c hst hst' => absurd (hst.symm.trans ((hstanding id).symm.trans hst')) (by simp),
    fun k p' hp' hr => ?_, fun m => .inl (by rw [h.slots])⟩
  · rw [h.containers] at hc
    exact .inr ⟨c, hc, .refl c, .inl rfl⟩
  · obtain ⟨p, hp, hlater, -⟩ := h.back k p' hp'
    exact .inr ⟨p, hp, hlater⟩
  · obtain ⟨p, hp, -, hreason⟩ := h.back k p' hp'
    exact (hreason hr).imp (fun hr => ⟨p, hp, hr⟩) fun hk => .inl (hs k hk)

theorem closePackage_later {k : PackageId} (hw : Consistent w) (hs : S.shutting k) :
    Later S w (closePackage k w).2 :=
  (closePackage_closings k w).later hw fun _ hj => List.mem_singleton.mp hj ▸ hs

/-! ## §2. Containers closed. -/

theorem Later.emit (hw : Consistent w) (e : Event) :
    Later S w (through (Gateway.emit e) w).2 :=
  .same hw (Nat.le_refl _)

/-- Giving the handle of a container back and closing its packages. -/
theorem Closings.closeContainer {id : ContainerId} {c : Container} (hw : Consistent w)
    (hc : w.containers.get? id = some c)
    (h : Closings c.packages (containerReleased id c w) w') (hs : S.closing id) :
    Later S w w' := by
  have hreleased : Consistent (containerReleased id c w) := by
    refine ⟨fun j b hb => ?_, hw.packageIds, hw.kinds, fun j b hb => ?_, fun j b hb => ?_,
      fun m o ho j hj => ?_, hw.ownedPackages⟩
    · obtain ⟨b', hb', -⟩ := containerReleased_back hc hb
      exact hw.containerIds j b' hb'
    · obtain ⟨b', hb', hlist, hpath⟩ := containerReleased_back hc hb
      rw [← hlist, ← hpath]
      exact hw.members j b' hb'
    · obtain ⟨b', hb', hlist, -⟩ := containerReleased_back hc hb
      exact hlist ▸ hw.once j b' hb'
    · obtain ⟨b, hb⟩ := hw.ownedContainers m o ho j hj
      obtain ⟨b', hb', -⟩ := containerReleased_kept hc hb
      exact ⟨b', hb'⟩
  have hgone : w'.Gone id := by
    refine ⟨?_, ?_⟩
    · rw [h.containers]
      exact hw.containerIds id c hc
    · unfold standing?
      rw [h.containers, containerReleased_self]
      rfl
  -- no other container falls, whatever packages it lists
  have hothers : ∀ j, j ≠ id → w'.standing? j = w.standing? j := fun j hj => by
    unfold standing?
    rw [h.containers, containerReleased_ne hj]
  refine ⟨hw, h.consistent hreleased, Nat.le_trans ?_ h.issued,
    Nat.le_of_eq (by rw [h.containers]; rfl),
    Nat.le_of_eq h.next.symm, fun j b hb => ?_, fun k p' hp' => ?_, fun j b hst hst' => ?_,
    fun j b hst hst' k hk => ?_, fun k p' hp' hr => ?_, fun m => .inl (by rw [h.slots]; rfl)⟩
  · exact (c.handle.giveBack_onward w.gateway).1.issued_le
  · rw [h.containers] at hb
    rcases Pool.get?_set_eq_some.mp hb with ⟨rfl, rfl⟩ | ⟨-, hb⟩
    · exact .inr ⟨c, hc, ⟨⟨rfl, rfl, fun _ => rfl⟩, rfl, List.prefix_rfl⟩, .inl rfl⟩
    · exact .inr ⟨b, hb, .refl b, .inl rfl⟩
  · obtain ⟨p, hp, hlater, -⟩ := h.back k p' hp'
    exact .inr ⟨p, hp, hlater⟩
  · by_cases hj : j = id
    · exact .inl (hj ▸ hs)
    · exact absurd (hst.symm.trans ((hothers j hj).symm.trans hst')) (by simp)
  · by_cases hj : j = id
    · subst hj
      rw [(standing?_eq_some.mp hst).1, Option.some.injEq] at hc
      subst hc
      obtain ⟨p, hp, -⟩ := hw.members j b (standing?_eq_some.mp hst).1 k hk
      exact ⟨h.next ▸ hw.packageIds k p hp, h.done k hk⟩
    · exact absurd (hst.symm.trans ((hothers j hj).symm.trans hst')) (by simp)
  · obtain ⟨p, hp, hlater, hreason⟩ := h.back k p' hp'
    rcases hreason hr with hr | hk
    · exact .inl ⟨p, hp, hr⟩
    · obtain ⟨q, hq, hlink⟩ := hw.members id c hc k hk
      have hpq : q = p := Option.some.inj (hq.symm.trans hp)
      exact .inr (.inr ⟨_, hlater.link _ (hpq ▸ hlink), hgone⟩)

/-- **A container that is closed takes its packages with it.** -/
theorem closeContainer_later {id : ContainerId} (hw : Consistent w) (hs : S.closing id) :
    Later S w (closeContainer id w).2 ∧ (closeContainer id w).2.standing? id = none := by
  cases hc : w.containers.get? id with
  | none =>
    have hrun : closeContainer id w = (false, w) := by
      unfold closeContainer
      simp only [bind_apply, get_apply, hc, pure_apply]
    rw [hrun]
    exact ⟨.refl S hw, standing?_of_absent hc⟩
  | some c =>
    cases hr : c.handle.released with
    | true =>
      rw [closeContainer_of_released hc hr]
      exact ⟨.same hw (Nat.le_refl _), standing?_of_closed (w := w) hc hr⟩
    | false =>
      have hclosings := closePackages_closings c.packages (containerReleased id c w)
      have hlater := hclosings.closeContainer hw hc hs
      rw [closeContainer_of_open hc hr]
      refine ⟨hlater.trans (.emit hlater.after _), ?_⟩
      show standing? (c.packages.forM closePackageIfOpen (containerReleased id c w)).2 id = none
      unfold standing?
      rw [hclosings.containers, containerReleased_self]
      rfl

theorem closeContainerIfOpen_later {id : ContainerId} (hw : Consistent w) (hs : S.closing id) :
    Later S w (closeContainerIfOpen id w).2
      ∧ (closeContainerIfOpen id w).2.standing? id = none := by
  unfold closeContainerIfOpen
  rw [get_bind_apply]
  cases hc : w.containers.get? id with
  | none => exact ⟨.refl S hw, standing?_of_absent hc⟩
  | some c =>
    dsimp only
    by_cases hr : c.isClosed = true
    · rw [if_pos hr]
      exact ⟨.refl S hw, standing?_of_closed hc hr⟩
    · rw [if_neg hr]
      exact closeContainer_later hw hs

/-! ## §3. Last owners. -/

/-- An owner of a package went away. -/
theorem dropPackage_later (k : PackageId) (hw : Consistent w) :
    Later S w (dropPackage k w).2 := by
  unfold dropPackage
  rw [get_bind_apply]
  by_cases hown : w.packageOwned k = true
  · rw [if_pos hown]
    exact .refl S hw
  rw [if_neg hown]
  cases hp : w.packages.get? k with
  | none => exact .refl S hw
  | some p =>
    simp only [bind_apply, set_apply, through_apply]
    have hissued := (p.handle.drop_onward w.gateway).1.issued_le
    have hsub : ∀ j q, (w.packages.remove k).get? j = some q → w.packages.get? j = some q :=
      fun j q hq => (Pool.get?_remove_eq_some.mp hq).2
    -- what is owned is not the one that goes
    have hkeep : ∀ j q, w.packageOwned j = true → w.packages.get? j = some q →
        (w.packages.remove k).get? j = some q := fun j q hj hq =>
      Pool.get?_remove_eq_some.mpr ⟨fun h => hown (h ▸ hj), hq⟩
    have h := Later.refl S hw
    refine ⟨hw, ⟨hw.containerIds, fun j q hq => hw.packageIds j q (hsub j q hq),
        fun j q hq => hw.kinds j q (hsub j q hq), fun id c hc j hj => ?_, hw.once,
        hw.ownedContainers, fun m o ho j hj => ?_⟩,
      hissued, h.containersNext, h.packagesNext, h.containers,
      fun j q hq => .inr ⟨q, hsub j q hq, .refl q⟩, h.closed,
      fun id c hst hst' => absurd (hst.symm.trans hst') (by simp),
      fun j q hq hr => .inl ⟨q, hsub j q hq, hr⟩, h.slots⟩
    · obtain ⟨q, hq, hlink⟩ := hw.members id c hc j hj
      exact ⟨q, hkeep j q ((w.packageOwned_iff j).mpr (.inr ⟨id, c, hc, hj⟩)) hq, hlink⟩
    · obtain ⟨q, hq⟩ := hw.ownedPackages m o ho j hj
      exact ⟨q, hkeep j q ((w.packageOwned_iff j).mpr (.inl ⟨m, o, ho, hj⟩)) hq⟩

/-- The same step for several objects, one after the other. -/
theorem Later.forM {α : Type} {f : α → StateM Host Unit} (xs : List α) (hw : Consistent w)
    (hf : ∀ x ∈ xs, ∀ w, Consistent w → Later S w (f x w).2) :
    Later S w (xs.forM f w).2 := by
  induction xs generalizing w with
  | nil => exact .refl S hw
  | cons x xs ih =>
    have hone := hf x (List.mem_cons_self ..) w hw
    exact hone.trans (ih hone.after fun y hy => hf y (List.mem_cons_of_mem _ hy))

theorem dropPackages_later (ks : List PackageId) (hw : Consistent w) :
    Later S w (ks.forM dropPackage w).2 :=
  .forM ks hw fun k _ _ hw => dropPackage_later k hw

/-- A container that does not stand and that nothing owns removed. -/
theorem Later.removeContainer {id : ContainerId} (hw : Consistent w)
    (hown : w.containerOwned id = false) (hst : w.standing? id = none) :
    Later S w { w with containers := w.containers.remove id } := by
  have hstanding : ∀ j b, w.standing? j = some b →
      standing? { w with containers := w.containers.remove id } j = some b := by
    intro j b hb
    obtain ⟨hget, hopen⟩ := standing?_eq_some.mp hb
    refine standing?_eq_some.mpr ⟨Pool.get?_remove_eq_some.mpr ⟨?_, hget⟩, hopen⟩
    rintro rfl
    exact absurd (hb.symm.trans hst) (by simp)
  have h := refl S hw
  refine ⟨hw, ⟨fun j b hb => hw.containerIds j b (Pool.get?_remove_eq_some.mp hb).2, hw.packageIds,
      hw.kinds, fun j b hb => hw.members j b (Pool.get?_remove_eq_some.mp hb).2,
      fun j b hb => hw.once j b (Pool.get?_remove_eq_some.mp hb).2, fun m o ho j hj => ?_,
      hw.ownedPackages⟩,
    h.issued, h.containersNext, h.packagesNext,
    fun j b hb => .inr ⟨b, (Pool.get?_remove_eq_some.mp hb).2, .refl b, .inl rfl⟩, h.packages,
    fun j b hb hb' => absurd ((hstanding j b hb).symm.trans hb') (by simp),
    fun j b hb hb' => absurd ((hstanding j b hb).symm.trans hb') (by simp),
    fun k p hp hr => .inl ⟨p, hp, hr⟩, h.slots⟩
  obtain ⟨b, hb⟩ := hw.ownedContainers m o ho j hj
  refine ⟨b, Pool.get?_remove_eq_some.mpr ⟨?_, hb⟩⟩
  rintro rfl
  exact absurd ((w.containerOwned_iff j).mpr ⟨m, o, ho, hj⟩) (by simp [hown])

/-- **An owner of a container went away**; the last one takes it along, closed. -/
theorem dropContainer_later (id : ContainerId) (hw : Consistent w) :
    Later S w (dropContainer id w).2 := by
  unfold dropContainer
  rw [get_bind_apply]
  by_cases hown : w.containerOwned id = true
  · rw [if_pos hown]
    exact .refl S hw
  rw [if_neg hown]
  have hown : w.containerOwned id = false := by simpa using hown
  cases hc : w.containers.get? id with
  | none => exact .refl S hw
  | some c =>
    -- closing it is in no scope, but it goes away afterwards
    let closing : Scope := { S with closing := fun j => S.closing j ∨ j = id }
    have hgone : ∀ w1, Later closing w w1 → (∀ m : String, w1.slots[m]? = w.slots[m]?) →
        w1.standing? id = none →
        Later S w (c.packages.forM dropPackage
          { w1 with containers := w1.containers.remove id }).2 := by
      intro w1 h hslots hst
      have hown1 : w1.containerOwned id = false := by
        rw [← Bool.not_eq_true, containerOwned_iff] at hown ⊢
        rintro ⟨m, o, ho, hid⟩
        exact hown ⟨m, o, (hslots m).symm.trans ho, hid⟩
      have hremove : Later closing w1 { w1 with containers := w1.containers.remove id } :=
        .removeContainer h.after hown1 hst
      have hdrop := dropPackages_later (S := closing) c.packages hremove.after
      refine Later.restateClosing ((h.trans hremove).trans hdrop) fun j hj => ?_
      refine hj.imp_right ?_
      rintro rfl
      refine hdrop.absent ?_ ?_
      · exact Nat.lt_of_lt_of_le (hw.containerIds j c hc) h.containersNext
      · show (w1.containers.remove j).get? j = none
        rw [Pool.get?_remove, if_pos rfl]
    dsimp only
    by_cases hr : c.isClosed = true
    · rw [if_pos hr]
      exact hgone w (.refl _ hw) (fun _ => rfl) (standing?_of_closed hc hr)
    · rw [if_neg hr]
      have hemit : Later closing w (through (Gateway.emit (.containerDropped c.path)) w).2 :=
        .emit hw _
      obtain ⟨hclose, hst⟩ := closeContainer_later (S := closing) hemit.after (.inr rfl)
      have hslots := (closeContainer_later (S := { closing with slots := fun _ _ => False })
        hemit.after (.inr rfl)).1.sameSlots
      exact hgone _ (hemit.trans hclose) hslots hst

/-! ## §4. Slots. -/

/-- What a slot held goes away. -/
theorem dropHolding_later (o : Holding) (hw : Consistent w) : Later S w (dropHolding o w).2 := by
  cases o with
  | owned x => exact .same hw (x.drop_onward w.gateway).1.issued_le
  | container id => exact dropContainer_later id hw
  | package k => exact dropPackage_later k hw
  | stream s => exact .same hw (s.handle.drop_onward w.gateway).1.issued_le
  | fetch f =>
    have hclose : Later S w (through f.close w).2 :=
      .same hw (f.close_forward w.gateway).1.issued_le
    exact hclose.trans (dropPackage_later f.package hclose.after)
  | library l =>
    have hnote : Later S w { w with libraryClosed := true } := .same hw (Nat.le_refl _)
    have hdrop : Later S _ (l.containerIds.forM dropContainer { w with libraryClosed := true }).2 :=
      .forM l.containerIds hnote.after fun id _ _ hw => dropContainer_later id hw
    exact (hnote.trans hdrop).trans (dropPackages_later l.packageIds hdrop.after)

/-- **A slot filled anew** with what is there, and what it held before gone. -/
theorem store_later {m : String} {o : Holding} (hw : Consistent w)
    (hc : ∀ id ∈ o.containers, ∃ c, w.containers.get? id = some c)
    (hp : ∀ k ∈ o.packages, ∃ p, w.packages.get? k = some p) (hs : S.slots m (some o)) :
    Later S w (store m o w).2 := by
  have hput := Later.update hw hc hp hs
  unfold store
  simp only [bind_apply, get_apply, set_apply]
  cases w.slots[m]? with
  | none => exact hput
  | some old => exact hput.trans (dropHolding_later old hput.after)

/-- What goes away with the filling of a slot touches no slot. -/
theorem store_slots (m : String) (o : Holding) (hw : Consistent w)
    (hc : ∀ id ∈ o.containers, ∃ c, w.containers.get? id = some c)
    (hp : ∀ k ∈ o.packages, ∃ p, w.packages.get? k = some p) (l : String) :
    (store m o w).2.slots[l]? = if l = m then some o else w.slots[l]? := by
  let S : Scope := ⟨fun _ _ => True, fun _ => False, fun _ => False, fun _ => False⟩
  have hput : Later S w { w with slots := w.slots.insert m o } := .update hw hc hp trivial
  have hslot : (w.slots.insert m o)[l]? = if l = m then some o else w.slots[l]? := by
    by_cases h : l = m
    · simp [h]
    · simp [Std.ExtTreeMap.getElem?_insert, h, Ne.symm h]
  unfold store
  simp only [bind_apply, get_apply, set_apply]
  cases w.slots[m]? with
  | none => exact hslot
  | some old =>
    have hdrop : Later { S with slots := fun _ _ => False } _ _ := dropHolding_later old hput.after
    exact (hdrop.sameSlots l).trans hslot

/-- **A slot emptied.** -/
theorem clear_later (m : String) (hw : Consistent w) (hs : S.slots m none) :
    Later S w (clear m w).2 := by
  unfold clear
  rw [get_bind_apply]
  cases w.slots[m]? with
  | none => exact .refl S hw
  | some o =>
    have herase := Later.erase hw hs
    exact herase.trans (dropHolding_later o herase.after)

end EpubAccess.Host
