/-
  EpubAccess.Proofs.Ownership.Owners
  ────────────────────────────────
  Objects that go away with their last owner.

  A package that goes away is closed by then, since an open one is still in
  the list of its container (`dropPackage_reaches`); a container is torn down
  before it goes (`dropContainer_reaches`).  So whatever a slot held goes
  away soundly (`dropHolding_reaches`), and a slot may be filled anew
  (`store_reaches`) or emptied (`clear_reaches`).
-/
import EpubAccess.Proofs.Ownership.Teardown

namespace EpubAccess.Host

open Stateful

variable {calm : Prop} {T : String → Prop} {w : Host} {hs : List OwnedHandle}
  {cs : List ContainerId} {ps : List PackageId}

/-! ## §1. Packages. -/

/-- A package that nothing owns is closed. -/
theorem Sound.released_of_unowned {d : Debts} {k : PackageId} {p : Package} (hw : Sound calm w d)
    (hp : w.packages.get? k = some p) (hu : w.packageOwned k = false) :
    p.handle.released = true := by
  by_contra hr
  obtain ⟨id, c, hc, hk, -⟩ := (hw.linked k p hp).2 (by simpa using hr)
  have hown := (w.packageOwned_iff k).mpr (.inr ⟨id, c, hc, hk⟩)
  rw [hu] at hown
  exact absurd hown (by simp)

/-- A package that nothing owns removed. -/
theorem Reaches.removePackage {k : PackageId} {p : Package}
    (hw : Sound calm w ⟨hs, cs, k :: ps, []⟩)
    (hp : w.packages.get? k = some p) (hu : w.packageOwned k = false) :
    Reaches calm T 0 w { w with packages := w.packages.remove k } ⟨hs, cs, ps, []⟩ := by
  have hr := hw.released_of_unowned hp hu
  have hplace : ∀ pl, pl ≠ .package k →
      held { w with packages := w.packages.remove k } pl = w.held pl := fun pl hpl =>
    held_congr (fun _ _ => rfl) (fun j hj => Pool.get?_remove_ne fun h => hpl (by rw [hj, h]))
      fun _ _ => rfl
  have hempty : held { w with packages := w.packages.remove k } (.package k) = none := by
    show ((w.packages.remove k).get? k).map _ = none
    rw [Pool.get?_remove, if_pos rfl]
    rfl
  have hledger := (hw.ledger.takeOut (held_package hp) hempty hplace).forget hr
  have hkinds :=
    hw.kinds_of_others (.package k) (fun x hx => absurd (hempty.symm.trans hx) (by simp)) hplace
  refine ⟨⟨hledger, hkinds, hw.slots, hw.containerIds, ?_, ?_, ?_, hw.containersOwned,
    ?_, hw.fetches, hw.calm⟩, [], .of_same rfl rfl ?_ (fun _ _ => rfl) rfl rfl⟩
  · exact fun j q hq => hw.packageIds j q (Pool.get?_remove_eq_some.mp hq).2
  · intro id c hc
    obtain ⟨hnodup, hlisted⟩ := hw.members id c hc
    refine ⟨hnodup, fun j hj => ?_⟩
    -- a listed package has an owner
    have hne : j ≠ k := by
      rintro rfl
      have hown := (w.packageOwned_iff j).mpr (.inr ⟨id, c, hc, hj⟩)
      rw [hu] at hown
      exact absurd hown (by simp)
    obtain ⟨q, hq, hlink⟩ := hlisted j hj
    exact ⟨q, (Pool.get?_remove_ne hne).trans hq, hlink⟩
  · exact fun j q hq => hw.linked j q (Pool.get?_remove_eq_some.mp hq).2
  · intro j q hq
    obtain ⟨hne, hq⟩ := Pool.get?_remove_eq_some.mp hq
    exact (hw.packagesOwned j q hq).imp_right fun hmem => (List.mem_cons.mp hmem).resolve_left hne
  · intro j
    show ((w.packages.remove k).get? j).bind _ = _
    by_cases hj : j = k
    · subst hj
      rw [Pool.get?_remove, if_pos rfl, packageHandle?, hp]
      simp [OwnedHandle.get?, hr]
    · rw [Pool.get?_remove_ne hj]
      rfl

/-- An owner of a package went away. -/
theorem dropPackage_reaches {k : PackageId} (hw : Sound calm w ⟨hs, cs, k :: ps, []⟩) :
    Reaches calm T 0 w (dropPackage k w).2 ⟨hs, cs, ps, []⟩ := by
  have hsettle : (∀ p, w.packages.get? k = some p → w.packageOwned k = true) →
      Reaches calm T 0 w w ⟨hs, cs, ps, []⟩ := by
    intro hk
    refine .refl (hw.settle (fun _ h _ _ => .inr h) fun j hj p hp => ?_)
    rcases List.mem_cons.mp hj with rfl | hj
    · exact .inl (hk p hp)
    · exact .inr hj
  unfold dropPackage
  rw [get_bind_apply]
  by_cases hown : w.packageOwned k = true
  · rw [if_pos hown]
    exact hsettle fun _ _ => hown
  · rw [if_neg hown]
    have hown : w.packageOwned k = false := by simpa using hown
    cases hp : w.packages.get? k with
    | none => exact hsettle fun p hp' => absurd (hp.symm.trans hp') (by simp)
    | some p =>
      have hr := hw.released_of_unowned hp hown
      have hdrop : p.drop w.gateway = ((), w.gateway) := by
        unfold Package.drop OwnedHandle.drop
        rw [hr]
        rfl
      simp only [bind_apply, set_apply, through, hdrop]
      exact .removePackage hw hp hown

/-- Owners of several packages went away. -/
theorem dropPackages_reaches (ks : List PackageId) (hw : Sound calm w ⟨hs, cs, ks ++ ps, []⟩) :
    Reaches calm T 0 w (ks.forM dropPackage w).2 ⟨hs, cs, ps, []⟩ := by
  induction ks generalizing w with
  | nil => exact .refl hw
  | cons k ks ih =>
    have hone : Reaches calm T 0 w (dropPackage k w).2 ⟨hs, cs, ks ++ ps, []⟩ :=
      dropPackage_reaches hw
    exact hone.trans (ih hone.sound)

/-! ## §2. Containers. -/

/-- Closing a container, open or not. -/
theorem closeContainer_reaches (id : ContainerId) (hw : Sound calm w ⟨hs, cs, ps, []⟩) :
    Reaches calm T 0 w (closeContainer id w).2 ⟨hs, cs, ps, []⟩ := by
  cases hc : w.containers.get? id with
  | none =>
    have hrun : closeContainer id w = (false, w) := by
      unfold closeContainer
      simp only [bind_apply, get_apply, hc, pure_apply]
    rw [hrun]
    exact .refl hw
  | some c =>
    cases hr : c.handle.released with
    | true => exact (closeContainer_again hw hc hr).1
    | false =>
      obtain ⟨hsound, hev, -⟩ := closeContainer_torn hw (standing?_eq_some.mpr ⟨hc, hr⟩)
      exact ⟨hsound, _, hev⟩

/-- A container closed unless it is. -/
theorem closeContainerIfOpen_reaches (id : ContainerId) (hw : Sound calm w ⟨hs, cs, ps, []⟩) :
    Reaches calm T 0 w (closeContainerIfOpen id w).2 ⟨hs, cs, ps, []⟩ := by
  unfold closeContainerIfOpen
  rw [get_bind_apply]
  cases hc : w.containers.get? id with
  | none => exact .refl hw
  | some c =>
    dsimp only
    by_cases hr : c.isClosed = true
    · rw [if_pos hr]
      exact .refl hw
    · rw [if_neg hr]
      exact closeContainer_reaches id hw

/-- A container that is closed and that nothing owns removed. -/
theorem Reaches.removeContainer {id : ContainerId} {c : Container}
    (hw : Sound calm w ⟨hs, id :: cs, ps, []⟩) (hc : w.containers.get? id = some c)
    (hr : c.handle.released = true) :
    Reaches calm T 0 w { w with containers := w.containers.remove id }
      ⟨hs, cs, c.packages ++ ps, []⟩ := by
  have hplace : ∀ pl, pl ≠ .container id →
      held { w with containers := w.containers.remove id } pl = w.held pl := fun pl hpl =>
    held_congr (fun j hj => Pool.get?_remove_ne fun h => hpl (by rw [hj, h])) (fun _ _ => rfl)
      fun _ _ => rfl
  have hempty : held { w with containers := w.containers.remove id } (.container id) = none := by
    show ((w.containers.remove id).get? id).map _ = none
    rw [Pool.get?_remove, if_pos rfl]
    rfl
  have hstanding : ∀ j, standing? { w with containers := w.containers.remove id } j
      = w.standing? j := by
    intro j
    show ((w.containers.remove id).get? j).filter _ = (w.containers.get? j).filter _
    by_cases hj : j = id
    · rw [hj, Pool.get?_remove, if_pos rfl, hc]
      simp [Option.filter, Container.isClosed, hr]
    · rw [Pool.get?_remove_ne hj]
  have hledger := (hw.ledger.takeOut (held_container hc) hempty hplace).forget hr
  have hkinds :=
    hw.kinds_of_others (.container id) (fun x hx => absurd (hempty.symm.trans hx) (by simp)) hplace
  refine ⟨⟨hledger, hkinds, hw.slots, ?_, hw.packageIds, ?_, ?_, ?_, ?_, hw.fetches, hw.calm⟩, [],
    by simp [log], ?_, fun j b hb => .inr ((hstanding j).symm.trans hb), Nat.le_refl _,
    fun _ _ => rfl, fun _ _ _ _ => rfl, rfl⟩
  · exact fun j b hb => hw.containerIds j b (Pool.get?_remove_eq_some.mp hb).2
  · exact fun j b hb => hw.members j b (Pool.get?_remove_eq_some.mp hb).2
  · intro k p hp
    obtain ⟨hlink, hopen⟩ := hw.linked k p hp
    refine ⟨hlink, fun hpr => ?_⟩
    obtain ⟨j, b, hb, hmem, hl, hclosing⟩ := hopen hpr
    -- an open package is not in the list of a closed container
    have hne : j ≠ id := by
      rintro rfl
      rw [hc, Option.some.injEq] at hb
      exact absurd (hclosing (hb ▸ hr)) (by simp)
    exact ⟨j, b, (Pool.get?_remove_ne hne).trans hb, hmem, hl, hclosing⟩
  · intro j b hb
    obtain ⟨hne, hb⟩ := Pool.get?_remove_eq_some.mp hb
    exact (hw.containersOwned j b hb).imp_right fun hmem =>
      (List.mem_cons.mp hmem).resolve_left hne
  · intro k p hp
    rcases hw.packagesOwned k p hp with hown | hmem
    · rcases (w.packageOwned_iff k).mp hown with hslot | ⟨j, b, hb, hmem⟩
      · exact .inl ((packageOwned_iff _ k).mpr (.inl hslot))
      -- the packages of its own list may lose their last owner
      · by_cases hj : j = id
        · rw [hj, hc, Option.some.injEq] at hb
          exact .inr (List.mem_append_left _ (hb ▸ hmem))
        · exact .inl ((packageOwned_iff _ k).mpr
            (.inr ⟨j, b, (Pool.get?_remove_ne hj).trans hb, hmem⟩))
    · exact .inr (List.mem_append_right _ hmem)
  · intro j b hb
    refine .inl ⟨(hstanding j).trans hb, rfl, fun k _ => ?_⟩
    show w.packageHandle? k = _
    exact packageHandle?_spared fun _ _ => rfl

/-- A closed container and its list gone. -/
theorem removeAndDrop_reaches {id : ContainerId} {c : Container}
    (hw : Sound calm w ⟨hs, id :: cs, ps, []⟩) (hc : w.containers.get? id = some c)
    (hr : c.handle.released = true) :
    Reaches calm T 0 w
      (c.packages.forM dropPackage { w with containers := w.containers.remove id }).2
      ⟨hs, cs, ps, []⟩ := by
  have hgone := Reaches.removeContainer (T := T) hw hc hr
  exact hgone.trans (dropPackages_reaches c.packages hgone.sound)

/-- An owner of a container went away. -/
theorem dropContainer_reaches {id : ContainerId} (hw : Sound calm w ⟨hs, id :: cs, ps, []⟩) :
    Reaches calm T 0 w (dropContainer id w).2 ⟨hs, cs, ps, []⟩ := by
  have hsettle : (∀ c, w.containers.get? id = some c → w.containerOwned id = true) →
      Reaches calm T 0 w w ⟨hs, cs, ps, []⟩ := by
    intro hid
    refine .refl (hw.settle (fun j hj c hc => ?_) fun _ h _ _ => .inr h)
    rcases List.mem_cons.mp hj with rfl | hj
    · exact .inl (hid c hc)
    · exact .inr hj
  unfold dropContainer
  rw [get_bind_apply]
  -- it stays while another owner is left
  by_cases hown : w.containerOwned id = true
  · rw [if_pos hown]
    exact hsettle fun _ _ => hown
  · rw [if_neg hown]
    cases hc : w.containers.get? id with
    | none => exact hsettle fun c hc' => absurd (hc.symm.trans hc') (by simp)
    | some c =>
      dsimp only
      cases hr : c.handle.released with
      | true =>
        rw [show c.isClosed = true from hr]
        exact removeAndDrop_reaches hw hc hr
      | false =>
        rw [show c.isClosed = false from hr]
        have hwarned : Reaches calm T 0 w { w with gateway := { w.gateway with
            events := w.gateway.events.push (.containerDropped c.path) } } ⟨hs, id :: cs, ps, []⟩ :=
          .same hw rfl rfl rfl rfl rfl
        obtain ⟨hsound, hev, hc', -⟩ := closeContainer_torn (T := T) hwarned.sound
          (standing?_eq_some.mpr ⟨hc, hr⟩)
        have hgone := removeAndDrop_reaches (T := T) hsound hc' rfl
        exact (hwarned.trans ⟨hsound, _, hev⟩).trans hgone

/-- Owners of several containers went away. -/
theorem dropContainers_reaches (ids : List ContainerId)
    (hw : Sound calm w ⟨hs, ids ++ cs, ps, []⟩) :
    Reaches calm T 0 w (ids.forM dropContainer w).2 ⟨hs, cs, ps, []⟩ := by
  induction ids generalizing w with
  | nil => exact .refl hw
  | cons id ids ih =>
    have hone : Reaches calm T 0 w (dropContainer id w).2 ⟨hs, ids ++ cs, ps, []⟩ :=
      dropContainer_reaches hw
    exact hone.trans (ih hone.sound)

/-! ## §3. Slots. -/

/-- What a slot held goes away, whatever it is. -/
theorem dropHolding_reaches {o : Holding}
    (hw : Sound calm w ⟨o.handles ++ hs, o.containers ++ cs, o.packages ++ ps, []⟩)
    (hfit : Fits calm w.gateway.engine o) :
    Reaches calm T 0 w (dropHolding o w).2 ⟨hs, cs, ps, []⟩ := by
  cases o with
  | owned x => exact absurd rfl (hfit.opened x)
  | container id => exact dropContainer_reaches hw
  | package k => exact dropPackage_reaches hw
  | stream s =>
    have hkind : s.handle.kind = .stream := hfit.kind s.handle rfl
    exact .gateway hw (OwnedHandle.drop_moved hw.ledger hkind)
  | fetch f =>
    rw [Holding.handles_fetch] at hw
    have hnone := f.close_stream w.gateway
    have hclose := Fetch.close_kept calm hw.ledger fun s hs => by
      refine hfit.kind s.handle ?_
      simp [Holding.handle?, hs]
    have hmoved : w.gateway.Moved w.held hs (f.close w.gateway).2 := by
      simpa [Fetch.handles, hnone] using hclose.moved
    have hgate := Reaches.gateway (T := T) hw hmoved
    have hdrop : Reaches calm T 0 _
        (dropPackage f.package { w with gateway := (f.close w.gateway).2 }).2
        ⟨hs, cs, ps, []⟩ := dropPackage_reaches hgate.sound
    exact hgate.trans hdrop
  | library l =>
    have hnote : Reaches calm T 0 w { w with libraryClosed := true }
        ⟨hs, l.containerIds ++ cs, l.packageIds ++ ps, []⟩ := .same hw rfl rfl rfl rfl rfl
    have hdrop := dropContainers_reaches (T := T) l.containerIds hnote.sound
    exact (hnote.trans hdrop).trans (dropPackages_reaches l.packageIds hdrop.sound)

/-- Handles in hand may be told over in another order. -/
theorem Sound.perm {d : Debts} (hw : Sound calm w d) {hs' : List OwnedHandle}
    (h : d.handles.Perm hs') : Sound calm w { d with handles := hs' } :=
  ⟨hw.ledger.perm h, hw.kinds, hw.slots, hw.containerIds, hw.packageIds, hw.members, hw.linked,
    hw.containersOwned, hw.packagesOwned, hw.fetches, hw.calm⟩

/-- A slot filled anew, with what it held before left as debts. -/
theorem Reaches.exchange {m : String} {o old : Holding} {cs' : List ContainerId}
    {ps' : List PackageId} (hw : Sound calm w ⟨o.handles ++ hs, cs', ps', []⟩) (hT : T m)
    (hold : w.slots[m]? = some old) (hfit : Fits calm w.gateway.engine o)
    (hcs : ∀ id ∈ cs', id ∈ o.containers ∨ id ∈ cs) (hps : ∀ k ∈ ps', k ∈ o.packages ∨ k ∈ ps) :
    Reaches calm T 0 w { w with slots := w.slots.insert m o }
      ⟨old.handles ++ hs, old.containers ++ cs, old.packages ++ ps, []⟩ := by
  have htake := Reaches.takeOut hw hT hold
  have hperm : (old.handles ++ (o.handles ++ hs)).Perm (o.handles ++ (old.handles ++ hs)) := by
    rw [← List.append_assoc, ← List.append_assoc]
    exact List.perm_append_comm.append_right hs
  have hput := Reaches.putIn (T := T) (m := m) (o := o) (htake.sound.perm hperm) hT (by simp) hfit
    (fun id hid => by
      rcases List.mem_append.mp hid with h | h
      · exact .inr (List.mem_append_left cs h)
      · exact (hcs id h).imp_right (List.mem_append_right _))
    (fun k hk => by
      rcases List.mem_append.mp hk with h | h
      · exact .inr (List.mem_append_left ps h)
      · exact (hps k h).imp_right (List.mem_append_right _))
  simp only [insert_erase] at hput
  exact htake.trans hput

/-- **A slot filled anew**, with what it held before gone. -/
theorem store_reaches {m : String} {o : Holding} {cs' : List ContainerId} {ps' : List PackageId}
    (hw : Sound calm w ⟨o.handles ++ hs, cs', ps', []⟩) (hT : T m)
    (hfit : Fits calm w.gateway.engine o) (hcs : ∀ id ∈ cs', id ∈ o.containers ∨ id ∈ cs)
    (hps : ∀ k ∈ ps', k ∈ o.packages ∨ k ∈ ps) :
    Reaches calm T 0 w (store m o w).2 ⟨hs, cs, ps, []⟩ := by
  unfold store
  simp only [bind_apply, get_apply, set_apply]
  cases hold : w.slots[m]? with
  | none => exact .putIn hw hT hold hfit hcs hps
  | some old =>
    have hput := Reaches.exchange hw hT hold hfit hcs hps
    exact hput.trans (dropHolding_reaches hput.sound (hw.fits hold))

/-- What goes away with the filling of a slot leaves the new object alone. -/
theorem store_stored {m : String} {o : Holding} {cs' : List ContainerId} {ps' : List PackageId}
    (hw : Sound calm w ⟨o.handles ++ hs, cs', ps', []⟩) (hfit : Fits calm w.gateway.engine o)
    (hcs : ∀ id ∈ cs', id ∈ o.containers ∨ id ∈ cs) (hps : ∀ k ∈ ps', k ∈ o.packages ∨ k ∈ ps) :
    (store m o w).2.slots[m]? = some o
      ∧ ∀ x, o.handle? = some x →
          (store m o w).2.gateway.engine.live[x.handle]? = w.gateway.engine.live[x.handle]? := by
  have hself : (w.slots.insert m o)[m]? = some o := by
    simp
  unfold store
  simp only [bind_apply, get_apply, set_apply]
  cases hold : w.slots[m]? with
  | none => exact ⟨hself, fun _ _ => rfl⟩
  | some old =>
    have hput := Reaches.exchange (T := (· = m)) hw rfl hold hfit hcs hps
    obtain ⟨new, hev⟩ :=
      (dropHolding_reaches (T := fun _ => False) hput.sound (hw.fits hold)).evolves
    refine ⟨(hev.slots m id).trans hself, fun x hx => hev.live m id x ?_⟩
    show ((w.slots.insert m o)[m]?).bind _ = _
    rw [hself]
    exact hx

/-- **A slot emptied.** -/
theorem clear_reaches (m : String) (hw : Sound calm w ⟨hs, cs, ps, []⟩) (hT : T m) :
    Reaches calm T 0 w (clear m w).2 ⟨hs, cs, ps, []⟩ := by
  unfold clear
  rw [get_bind_apply]
  cases hold : w.slots[m]? with
  | none => exact .refl hw
  | some o =>
    have htake := Reaches.takeOut hw hT hold
    exact htake.trans (dropHolding_reaches htake.sound (hw.fits hold))

end EpubAccess.Host
