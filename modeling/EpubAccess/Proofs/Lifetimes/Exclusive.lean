/-
  EpubAccess.Proofs.Lifetimes.Exclusive
  ────────────────────────────────
  A package belongs to one container, once and for good.

  Three facts about the objects of a host carry this.  A list names no package
  twice, two lists share no package, and a package that is attached to nothing
  is in no list (`Host.Consistent`).  So all lists together name a package at
  most once (`Consistent.listings_nodup`), and an attempt to attach a package
  either joins it to the end of one list or changes nothing
  (`addPackage_joins`, `addPackage_refuses`).  Closing a container touches the
  packages of its own list only (`Confined.closeContainer`).

  Nothing is asked of the commands that came before: packages may be loaded on
  their own over any handle, and containers may be closed.
-/
import EpubAccess.Proofs.Lifetimes.Commands
import EpubAccess.Proofs.Walks

namespace EpubAccess.Host

open Stateful

variable {w w' : Host} {id : ContainerId} {c : Container} {k : PackageId} {p : Package}

/-! ## §1. All lists together. -/

/-- The lists of all containers, one after the other. -/
def listings (w : Host) : List PackageId :=
  w.containers.members.toList.flatMap fun (_, c) => c.packages

theorem mem_containers_toList {x : ContainerId × Container} :
    x ∈ w.containers.members.toList ↔ w.containers.get? x.1 = some x.2 :=
  Std.ExtTreeMap.mem_toList_iff_getElem?_eq_some

/-- **No package is listed twice**, neither in one list nor in two. -/
theorem Consistent.listings_nodup (hw : Consistent w) : w.listings.Nodup := by
  apply List.nodup_flatMap.mpr
  constructor
  · intro x hx
    exact hw.once x.1 x.2 (mem_containers_toList.mp hx)
  · -- two entries of a registry have two numbers, and a package is attached under one
    have hkeys : w.containers.members.toList.Pairwise fun x y => x.1 ≠ y.1 :=
      Std.ExtTreeMap.distinct_keys_toList.imp fun hne heq => hne (by simp [heq])
    refine hkeys.imp_of_mem ?_
    intro x y hx hy hne k hkx hky
    have hunique : y.1 = x.1 :=
      hw.member_unique (mem_containers_toList.mp hx) (mem_containers_toList.mp hy) hkx hky
    exact hne hunique.symm

/-- Wherever the package is attached now, it stays attached there, whatever the
host is asked for later. -/
def Settled (w : Host) (k : PackageId) : Prop :=
  ∀ p link, w.packages.get? k = some p → p.link = some link →
    ∀ cs p', (after cs w).packages.get? k = some p' → p'.link = some link

theorem Consistent.settled (hw : Consistent w) (k : PackageId) : w.Settled k := by
  intro p link hp hlink cs p' hp'
  have hlater := (after_later cs hw).package hp hp'
  exact hlater.link link hlink

/-! ## §2. An attempt to attach a package. -/

/-- The package `k` came to the container `id`: it is linked to the container
and stands at the end of that list, and no other object changed. -/
structure Joined (id : ContainerId) (c : Container) (k : PackageId) (p : Package) (w w' : Host) :
    Prop where
  linked : w'.packages.get? k = some { p with link := some ⟨id, c.path⟩ }
  listed : w'.containers.get? id = some { c with packages := c.packages ++ [k] }
  otherPackages : ∀ j, j ≠ k → w'.packages.get? j = w.packages.get? j
  otherContainers : ∀ j, j ≠ id → w'.containers.get? j = w.containers.get? j

/-- No list and no package changed, and the engine was not called. -/
structure Refused (w w' : Host) : Prop where
  containers : w'.containers = w.containers
  packages : w'.packages = w.packages
  engine : w'.gateway.engine = w.gateway.engine

section Attempt

variable (hc : w.containers.get? id = some c) (hp : w.packages.get? k = some p)

include hc hp

/-- A package that is attached to nothing is accepted. -/
theorem addPackage_joins (hlink : p.link = none) :
    (addPackage id k w).1 = true ∧ Joined id c k p w (addPackage id k w).2 := by
  unfold addPackage
  rw [get_bind_apply, hc, hp]
  simp only [Package.attach?, hlink, bind_apply, set_apply, pure_apply, true_and]
  exact ⟨Pool.get?_set_self .., Pool.get?_set_self .., fun _ hj => Pool.get?_set_ne hj,
    fun _ hj => Pool.get?_set_ne hj⟩

/-- A package that is attached already is refused, whichever container asks. -/
theorem addPackage_refuses {link : ContainerLink} (hlink : p.link = some link) :
    (addPackage id k w).1 = false ∧ Refused w (addPackage id k w).2 := by
  unfold addPackage
  rw [get_bind_apply, hc, hp]
  simp only [Package.attach?, hlink, bind_apply, pure_apply, true_and]
  exact ⟨rfl, rfl, rfl⟩

/-- **An attempt succeeds exactly for a package that is attached to nothing.** -/
theorem addPackage_iff : (addPackage id k w).1 = true ↔ p.link = none := by
  cases hlink : p.link with
  | none => simp [(addPackage_joins hc hp hlink).1]
  | some link => simp [(addPackage_refuses hc hp hlink).1]

end Attempt

/-! ## §3. Work on one container and its packages. -/

/-- The pools differ in one container at most, which has the list that it had,
and in some packages. -/
structure Confined (id : ContainerId) (ks : List PackageId) (w w' : Host) : Prop where
  others : ∀ j, j ≠ id → w'.containers.get? j = w.containers.get? j
  lists : ∀ c', w'.containers.get? id = some c' →
    ∃ c, w.containers.get? id = some c ∧ c'.packages = c.packages
  packages : ∀ j, j ∉ ks → w'.packages.get? j = w.packages.get? j

namespace Confined

variable {ks : List PackageId}

/-- The containers are the same, and of the packages all but one. -/
theorem of_package (hc : w'.containers = w.containers) (hk : k ∈ ks)
    (hp : ∀ j, j ≠ k → w'.packages.get? j = w.packages.get? j) : Confined id ks w w' :=
  ⟨fun _ _ => by rw [hc], fun c' hc' => ⟨c', hc ▸ hc', rfl⟩,
    fun j hj => hp j fun hjk => hj (hjk ▸ hk)⟩

/-- The pools are the same. -/
theorem same (hc : w'.containers = w.containers) (hp : w'.packages = w.packages) :
    Confined id ks w w' :=
  ⟨fun _ _ => by rw [hc], fun c' hc' => ⟨c', hc ▸ hc', rfl⟩, fun _ _ => by rw [hp]⟩

instance : IsPreorder Host (Confined id ks) where
  refl _ := .same rfl rfl
  trans _ _ _ h h' := by
    refine ⟨fun j hj => (h'.others j hj).trans (h.others j hj), fun c'' hc'' => ?_,
      fun j hj => (h'.packages j hj).trans (h.packages j hj)⟩
    obtain ⟨c', hc', hlist'⟩ := h'.lists c'' hc''
    obtain ⟨c, hc, hlist⟩ := h.lists c' hc'
    exact ⟨c, hc, hlist'.trans hlist⟩

theorem through {α : Type} (m : StateM Gateway α) : Along (Confined id ks) (Host.through m) :=
  fun _ => .same rfl rfl

theorem update (slot : String) (o : Holding) : Along (Confined id ks) (Host.update slot o) :=
  fun _ => .same rfl rfl

theorem closePackage (hk : k ∈ ks) : Along (Confined id ks) (Host.closePackage k) := by
  refine .look fun w => ?_
  cases w.packages.get? k with
  | none => exact .pure _
  | some p =>
    have hset : ∀ p', Along (Confined id ks) (setPackage k p') := fun p' =>
      .modify fun w => .of_package rfl hk fun _ hj => Pool.get?_set_ne hj
    exact .bind (through p.close) fun r => .bind (hset r.2) fun _ => .pure _

theorem closePackageIfOpen (hk : k ∈ ks) : Along (Confined id ks) (Host.closePackageIfOpen k) := by
  refine .look fun w => ?_
  cases w.packages.get? k with
  | none => exact .pure _
  | some p =>
    dsimp only
    split
    · exact .pure _
    · exact closePackage hk

theorem dropPackage (hk : k ∈ ks) : Along (Confined id ks) (Host.dropPackage k) := by
  refine .get_bind fun w => ?_
  split
  · exact refl_of _ w
  · cases w.packages.get? k with
    | none => exact refl_of _ w
    | some p =>
      have hremove : Confined id ks w { w with packages := w.packages.remove k } :=
        .of_package rfl hk fun _ hj => Pool.get?_remove_ne hj
      exact trans_of _ hremove (through p.drop _)

variable (hc : w.containers.get? id = some c) (hks : ∀ j ∈ c.packages, j ∈ ks)

include hc hks

/-- **Closing a container touches no package outside its list**, and no other
container. -/
theorem closeContainer : Confined id ks w (Host.closeContainer id w).2 := by
  unfold Host.closeContainer
  simp only [bind_apply, get_apply, hc, modify_apply]
  have hcontainers : (Host.through c.handle.release w).2.containers = w.containers := rfl
  have hpackages : (Host.through c.handle.release w).2.packages = w.packages := rfl
  generalize Host.through c.handle.release w = r at hcontainers hpackages ⊢
  obtain ⟨⟨done, handle⟩, w1⟩ := r
  have hset : Confined id ks w
      { w1 with containers := w1.containers.set id { c with handle } } := by
    rw [hcontainers]
    refine ⟨fun _ hj => Pool.get?_set_ne hj, fun c' hc' => ⟨c, hc, ?_⟩,
      fun _ _ => by rw [← hpackages]⟩
    rw [Pool.get?_set_self, Option.some.injEq] at hc'
    rw [← hc']
  cases done with
  | true =>
    have hrest : Along (Confined id ks) (c.packages.forM Host.closePackageIfOpen) :=
      .forM_mem fun j hj => closePackageIfOpen (hks j hj)
    exact trans_of _ hset (Along.bind hrest (fun _ => .bind (through _) fun _ => .pure _) _)
  | false => exact hset

theorem closeContainerIfOpen : Confined id ks w (Host.closeContainerIfOpen id w).2 := by
  unfold Host.closeContainerIfOpen
  rw [get_bind_apply, hc]
  dsimp only
  split
  · exact refl_of _ w
  · exact closeContainer hc hks

/-- A container that goes away takes packages of its list along. -/
theorem dropContainer : Confined id ks w (Host.dropContainer id w).2 := by
  unfold Host.dropContainer
  rw [get_bind_apply, hc]
  have hremove : ∀ w : Host, Confined id ks w { w with containers := w.containers.remove id } := by
    refine fun w => ⟨fun _ hj => Pool.get?_remove_ne hj, fun c' hc' => ?_, fun _ _ => rfl⟩
    exact absurd rfl (Pool.get?_remove_eq_some.mp hc').1
  have hrest : Along (Confined id ks) (do
      modify fun w : Host => { w with containers := w.containers.remove id }
      c.packages.forM Host.dropPackage : StateM Host Unit) :=
    .bind (.modify hremove) fun _ => .forM_mem fun j hj => dropPackage (hks j hj)
  split
  · exact refl_of _ w
  · dsimp only
    split
    · exact hrest w
    · have hclose : Confined id ks w
          (Host.closeContainer id (Host.through (Gateway.emit (.containerDropped c.path)) w).2).2 :=
        trans_of _ (through _ w) (closeContainer (w := (Host.through _ w).2) hc hks)
      exact trans_of _ hclose (hrest _)

end Confined

/-! ## §4. Runs. -/

/-- **Packages are owned by one container, for good.**  After any run all lists
together name a package at most once and what is attached stays where it is.
Any container that is there, open or closed, may then ask for any package: it
gets the package at the end of its list if that is attached to nothing, and
otherwise nothing changes and the engine is not called.  A container that is
closed leaves alone what another one lists. -/
theorem packages_owned_once (cs : List Command) (id : ContainerId) (c : Container) (k : PackageId)
    (p : Package) (hc : (after cs fresh).containers.get? id = some c)
    (hp : (after cs fresh).packages.get? k = some p) :
    let w := after cs fresh
    let attempt := addPackage id k w
    w.listings.Nodup ∧ (∀ j, w.Settled j)
      ∧ (attempt.1 = true ↔ p.link = none)
      ∧ (attempt.1 = true → Joined id c k p w attempt.2)
      ∧ (attempt.1 = false → Refused w attempt.2)
      ∧ attempt.2.listings.Nodup ∧ (∀ j, attempt.2.Settled j)
      ∧ ∀ other b j, w.containers.get? other = some b → other ≠ id → j ∈ b.packages →
          (closeContainer id w).2.packages.get? j = w.packages.get? j := by
  intro w attempt
  have hw : Consistent w := consistent_after cs
  have hattempt : Consistent attempt.2 := (addPackage_later (S := .any) hw trivial).after
  refine ⟨hw.listings_nodup, hw.settled, addPackage_iff hc hp, ?_, ?_, hattempt.listings_nodup,
    hattempt.settled, ?_⟩
  · intro hdone
    exact (addPackage_joins hc hp ((addPackage_iff hc hp).mp hdone)).2
  · intro hrefused
    cases hlink : p.link with
    | none => exact absurd ((addPackage_joins hc hp hlink).1.symm.trans hrefused) (by simp)
    | some link => exact (addPackage_refuses hc hp hlink).2
  · intro other b j hb hne hj
    refine (Confined.closeContainer hc fun _ h => h).packages j fun hmem => ?_
    exact hne (hw.member_unique hc hb hmem hj)

/-- A container with its package, and a second package loaded alone over the same handle. -/
def sampleStray : List Command :=
  samplePreparation ++ [.loadPackage ⟨2⟩ .default "stray"]

/-- The package that was loaded alone is accepted once, behind the first one. -/
theorem packages_owned_once_sample :
    ∃ c p, (after sampleStray fresh).containers.get? 0 = some c
      ∧ (after sampleStray fresh).packages.get? 1 = some p
      ∧ (addPackage 0 1 (after sampleStray fresh)).1 = true
      ∧ (addPackage 0 1 (after sampleStray fresh)).2.listings = [0, 1]
      ∧ (addPackage 0 1 (after sampleStray fresh)).2.listings.Nodup := by
  have hcontainer : ((after sampleStray fresh).containers.get? 0).isSome = true := by decide +kernel
  have hpackage : ((after sampleStray fresh).packages.get? 1).isSome = true := by decide +kernel
  have hlisted : (addPackage 0 1 (after sampleStray fresh)).1 = true
      ∧ (addPackage 0 1 (after sampleStray fresh)).2.listings = [0, 1] := by decide +kernel
  obtain ⟨c, hc⟩ := Option.isSome_iff_exists.mp hcontainer
  obtain ⟨p, hp⟩ := Option.isSome_iff_exists.mp hpackage
  exact ⟨c, p, hc, hp, hlisted.1, hlisted.2,
    (packages_owned_once sampleStray 0 c 1 p hc hp).2.2.2.2.2.1⟩

end EpubAccess.Host
