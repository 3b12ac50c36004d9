/-
  EpubAccess.Proofs.Lifetimes.Draining
  ────────────────────────────────
  Containers closed and given up, in whatever order.

  Closing a container and giving it up touches that container and the packages
  that it lists, and gives back the handles of both that are still held
  (`Host.Drained`).  What is left is told by lookups in the host before, and by
  nothing that depends on the other containers (`Host.leftContainer?`,
  `Host.leftPackage?`).  So several containers are drained one after the other
  (`Drained.trans`), and any two orders leave the same objects and, but for the
  order of releases, the same books (`Drained.determined`).

  Of the engine it matters that a container's handle goes before those of its
  packages, which were opened from it (`Host.Lineage`): then no package is ever
  released early.
-/
import EpubAccess.Proofs.Engine.Releases
import EpubAccess.Proofs.Lifetimes.Lineage

namespace EpubAccess.Host

open Stateful Engine

variable {S : Scope} {w w' w'' : Host}

/-! ## §1. Packages closed. -/

/-- A package once it is closed. -/
def shutPackage (p : Package) : Package := if p.isClosed then p else closedPackage p

theorem isClosed_shutPackage (p : Package) : (shutPackage p).isClosed = true := by
  unfold shutPackage
  split
  · next h => exact h
  · rfl

theorem shutPackage_of_closed {p : Package} (h : p.isClosed = true) : shutPackage p = p := if_pos h

/-- Of the packages those in `ks` were closed, in order, and nothing else happened
to objects. -/
structure PackagesShut (ks : List PackageId) (w w' : Host) : Prop where
  rest : w' = { w with gateway := w'.gateway, packages := w'.packages }
  next : w'.packages.next = w.packages.next
  packages : ∀ k, w'.packages.get? k
    = if k ∈ ks then (w.packages.get? k).map shutPackage else w.packages.get? k
  engine : GaveBack (ks.filterMap w.packageHandle?) w.gateway.engine w'.gateway.engine

/-- A package that is open is given back once it is free. -/
theorem closePackageIfOpen_shut (k : PackageId)
    (hfree : ∀ p, w.packages.get? k = some p → p.isClosed = false →
      w.gateway.engine.Free p.handle.handle) :
    PackagesShut [k] w (closePackageIfOpen k w).2 := by
  -- nothing to close
  have hskip : w.packageHandle? k = none → (w.packages.get? k).map shutPackage = w.packages.get? k →
      PackagesShut [k] w w := by
    intro hnone hsame
    refine ⟨rfl, rfl, fun j => ?_, ?_⟩
    · by_cases hj : j = k
      · rw [if_pos (List.mem_singleton.mpr hj), hj, hsame]
      · rw [if_neg (fun h => hj (List.mem_singleton.mp h))]
    · rw [List.filterMap_cons, hnone]
      exact .refl _
  unfold closePackageIfOpen
  rw [get_bind_apply]
  cases hp : w.packages.get? k with
  | none => exact hskip (by simp [packageHandle?, hp]) (by simp [hp])
  | some p =>
    dsimp only
    cases hr : p.isClosed with
    | true =>
      have hclosed : p.handle.released = true := hr
      refine hskip (by simp [packageHandle?, hp, OwnedHandle.get?, hclosed]) ?_
      rw [hp, Option.map_some, shutPackage_of_closed hr]
    | false =>
      show PackagesShut [k] w (closePackage k w).2
      rw [closePackage_open hp hr]
      refine ⟨rfl, rfl, fun j => ?_, ?_⟩
      · show (w.packages.set k (closedPackage p)).get? j = _
        rw [Pool.get?_set]
        by_cases hj : j = k
        · rw [if_pos hj, if_pos (List.mem_singleton.mpr hj), hj, hp, Option.map_some,
            shutPackage, hr]
          rfl
        · rw [if_neg hj, if_neg (fun h => hj (List.mem_singleton.mp h))]
      · rw [List.filterMap_cons, packageHandle?_eq_some.mpr ⟨p, hp, hr, rfl⟩]
        show GaveBack [p.handle.handle] _ (p.handle.giveBack w.gateway).2.engine
        rw [p.handle.giveBack_engine]
        exact takeBack_gaveBack _ _ (hfree p hp hr)

/-- **Free packages closed**, one after the other. -/
theorem closePackages_shut (ks : List PackageId) (hn : ks.Nodup)
    (hfree : ∀ k ∈ ks, ∀ p, w.packages.get? k = some p → p.isClosed = false →
      w.gateway.engine.Free p.handle.handle) :
    PackagesShut ks w (ks.forM closePackageIfOpen w).2 := by
  -- the packages further down the list are as open as at the start, and as free
  induction ks generalizing w with
  | nil => exact ⟨rfl, rfl, fun _ => by simp [forM_nil], .refl _⟩
  | cons k ks ih =>
    obtain ⟨hnk, hn⟩ := List.nodup_cons.mp hn
    have hone := closePackageIfOpen_shut k (hfree k (List.mem_cons_self ..))
    have hsame : ∀ j ∈ ks, (closePackageIfOpen k w).2.packages.get? j = w.packages.get? j := by
      intro j hj
      rw [hone.packages, if_neg]
      intro h
      exact hnk (List.mem_singleton.mp h ▸ hj)
    have hrest := ih hn fun j hj p hp hr =>
      hone.engine.free (hfree j (List.mem_cons_of_mem _ hj) p (hsame j hj ▸ hp) hr)
    have hrun : ((k :: ks).forM closePackageIfOpen w).2
        = (ks.forM closePackageIfOpen (closePackageIfOpen k w).2).2 := rfl
    rw [hrun]
    generalize (closePackageIfOpen k w).2 = w1 at hone hsame hrest ⊢
    refine ⟨?_, hrest.next.trans hone.next, fun j => ?_, ?_⟩
    · rw [hrest.rest, hone.rest]
    · rw [hrest.packages]
      by_cases hj : j ∈ ks
      · rw [if_pos hj, if_pos (List.mem_cons_of_mem _ hj), hsame j hj]
      · rw [if_neg hj, hone.packages]
        simp [hj]
    · have hhandles : ks.filterMap w1.packageHandle? = ks.filterMap w.packageHandle? := by
        refine List.filterMap_congr fun j hj => ?_
        unfold packageHandle?
        rw [hsame j hj]
      have hboth := hone.engine.trans hrest.engine
      rwa [hhandles, ← List.filterMap_append] at hboth

/-- Of the packages those in `ks` that nothing owns went away, and nothing else
happened. -/
structure PackagesGone (ks : List PackageId) (w w' : Host) : Prop where
  rest : w' = { w with packages := w'.packages }
  next : w'.packages.next = w.packages.next
  packages : ∀ k, w'.packages.get? k
    = if k ∈ ks ∧ w.packageOwned k = false then none else w.packages.get? k

namespace PackagesGone

/-- What is closed stays closed. -/
theorem shut {ks : List PackageId} (h : PackagesGone ks w w') {k : PackageId} (hk : w.Shut k) :
    w'.Shut k := by
  refine ⟨h.next ▸ hk.1, fun p hp => hk.2 p ?_⟩
  rw [h.packages] at hp
  split at hp
  · exact absurd hp (by simp)
  · exact hp

/-- Hosts that differ in their gateways differ in nothing else afterwards. -/
theorem determined {ks : List PackageId} {v v' : Host} (h : PackagesGone ks w w')
    (h' : PackagesGone ks v v') (hsame : v = { w with gateway := v.gateway }) :
    v' = { w' with gateway := v'.gateway } := by
  have hpackages : v'.packages = w'.packages := by
    refine Pool.ext (fun k => ?_) ?_
    · rw [h'.packages, h.packages, hsame]
      rfl
    · rw [h'.next, h.next, hsame]
  rw [h'.rest, hpackages, h.rest, hsame]

end PackagesGone

/-- A closed package that loses an owner reaches no engine. -/
theorem dropPackage_gone (k : PackageId)
    (hshut : ∀ p, w.packages.get? k = some p → p.isClosed = true) :
    PackagesGone [k] w (dropPackage k w).2 := by
  unfold dropPackage
  rw [get_bind_apply]
  cases hown : w.packageOwned k with
  | true =>
    rw [if_pos rfl]
    refine ⟨rfl, rfl, fun j => (if_neg ?_).symm⟩
    rintro ⟨hj, hfree⟩
    rw [List.mem_singleton.mp hj, hown] at hfree
    exact absurd hfree (by simp)
  | false =>
    rw [if_neg Bool.false_ne_true]
    cases hp : w.packages.get? k with
    | none =>
      refine ⟨rfl, rfl, fun j => ?_⟩
      split
      · next h => exact (List.mem_singleton.mp h.1) ▸ hp
      · rfl
    | some p =>
      have hr : p.handle.released = true := hshut p hp
      have hrun : ((set { w with packages := w.packages.remove k } : StateM Host PUnit)
          >>= fun _ => through p.drop) w = ((), { w with packages := w.packages.remove k }) := by
        rw [bind_apply, set_apply, through_apply, Package.drop, OwnedHandle.drop, hr]
        rfl
      dsimp only
      rw [hrun]
      refine ⟨rfl, rfl, fun j => ?_⟩
      show (w.packages.remove k).get? j = _
      rw [Pool.get?_remove]
      by_cases hj : j = k
      · rw [if_pos hj, if_pos ⟨List.mem_singleton.mpr hj, hj ▸ hown⟩]
      · rw [if_neg hj, if_neg fun h => hj (List.mem_singleton.mp h.1)]

/-- Closed packages that lose an owner, one after the other. -/
theorem dropPackages_gone (ks : List PackageId)
    (hshut : ∀ k ∈ ks, ∀ p, w.packages.get? k = some p → p.isClosed = true) :
    PackagesGone ks w (ks.forM dropPackage w).2 := by
  induction ks generalizing w with
  | nil => exact ⟨rfl, rfl, fun _ => by simp [forM_nil]⟩
  | cons k ks ih =>
    have hone := dropPackage_gone k (hshut k (List.mem_cons_self ..))
    have hrun : ((k :: ks).forM dropPackage w).2
        = (ks.forM dropPackage (dropPackage k w).2).2 := rfl
    rw [hrun]
    generalize (dropPackage k w).2 = w1 at hone ⊢
    have howned : ∀ j, w1.packageOwned j = w.packageOwned j := by
      intro j
      rw [hone.rest]
      rfl
    have hrest := ih (w := w1) fun j hj p hp => by
      rw [hone.packages] at hp
      split at hp
      · exact absurd hp (by simp)
      · exact hshut j (List.mem_cons_of_mem _ hj) p hp
    refine ⟨?_, hrest.next.trans hone.next, fun j => ?_⟩
    · rw [hrest.rest, hone.rest]
    · rw [hrest.packages, hone.packages, howned]
      by_cases hj : j ∈ ks <;> by_cases hjk : j = k <;> cases hown : w.packageOwned j <;>
        simp [hj, hjk]

/-! ## §2. A container closed and given up. -/

/-- What every reachable host keeps, if no package was loaded alone. -/
structure Regular (w : Host) : Prop where
  consistent : Consistent w
  housed : Housed w
  lineage : Lineage w
  engine : w.gateway.engine.InOrder

/-- Work that adds no object keeps a host regular. -/
theorem Regular.later (hw : Regular w) (hlater : Later S w w') (hasks : Asks w w')
    (hpackages : w'.packages.next = w.packages.next) (hcontainers : AddsNone w w') : Regular w' :=
  ⟨hlater.after, hlater.housed_of_next hw.housed hpackages,
    hw.lineage.later_of_next hlater hasks hw.engine hpackages hcontainers,
    (hasks.ahead hw.engine).1⟩

/-- The handles of a container that stands, in the order in which it is torn down. -/
def handlesOf (w : Host) (id : ContainerId) : List Handle :=
  match w.standing? id with
  | some c => c.handle.handle :: w.openHandles c
  | none => []

theorem releasedContainer_of_closed {c : Container} (hr : c.isClosed = true) :
    releasedContainer c = c := by
  have hreleased : c.handle.released = true := hr
  unfold releasedContainer
  rw [← hreleased]

/-- The container was closed and its packages with it, and nothing else happened to
objects. -/
structure ContainerShut (id : ContainerId) (c : Container) (w w' : Host) : Prop where
  rest : w' = { w with
    gateway := w'.gateway
    containers := w.containers.set id (releasedContainer c)
    packages := w'.packages }
  next : w'.packages.next = w.packages.next
  packages : ∀ k, w'.packages.get? k
    = if k ∈ c.packages then (w.packages.get? k).map shutPackage else w.packages.get? k
  engine : GaveBack (w.handlesOf id) w.gateway.engine w'.gateway.engine

namespace ContainerShut

variable {id j : ContainerId} {c : Container}

theorem self (h : ContainerShut id c w w') :
    w'.containers.get? id = some (releasedContainer c) := by
  rw [h.rest]
  exact Pool.get?_set_self ..

theorem other (h : ContainerShut id c w w') (hj : j ≠ id) :
    w'.containers.get? j = w.containers.get? j := by
  rw [h.rest]
  exact Pool.get?_set_ne hj

theorem slots (h : ContainerShut id c w w') : w'.slots = w.slots := by rw [h.rest]

theorem containerOwned (h : ContainerShut id c w w') (j : ContainerId) :
    w'.containerOwned j = w.containerOwned j := by
  unfold Host.containerOwned
  rw [h.slots]

theorem closed (h : ContainerShut id c w w') {k : PackageId} (hk : k ∈ c.packages) {p : Package}
    (hp : w'.packages.get? k = some p) : p.isClosed = true := by
  rw [h.packages, if_pos hk, Option.map_eq_some_iff] at hp
  obtain ⟨p, -, rfl⟩ := hp
  exact isClosed_shutPackage p

end ContainerShut

/-- The packages of a container that does not stand are closed. -/
theorem Housed.closed_of_member (hh : Housed w) (hw : Consistent w) {id : ContainerId}
    {c : Container}
    (hc : w.containers.get? id = some c) (hr : c.isClosed = true) {k : PackageId}
    (hk : k ∈ c.packages) {p : Package} (hp : w.packages.get? k = some p) : p.isClosed = true := by
  by_contra hopen
  obtain ⟨j, b, hst, hb⟩ := hh k p hp (by simpa using hopen)
  obtain ⟨hj, hstands⟩ := standing?_eq_some.mp hst
  obtain rfl := hw.member_unique hc hj hk hb
  rw [hc, Option.some.injEq] at hj
  subst hj
  exact absurd (hr.symm.trans hstands) (by simp)

/-- The packages of a container are free once its handle was given back. -/
theorem Regular.free_of_member (hw : Regular w) {id : ContainerId} {c : Container} {e : Engine}
    (hc : w.containers.get? id = some c) (hback : GaveBack [c.handle.handle] w.gateway.engine e)
    {k : PackageId} (hk : k ∈ c.packages) {p : Package} (hp : w.packages.get? k = some p) :
    e.Free p.handle.handle := by
  intro q a i hlive hq
  obtain ⟨p', hp', hlink⟩ := hw.consistent.members id c hc k hk
  rw [hp, Option.some.injEq] at hp'
  subst hp'
  have hparent := (hw.lineage.packages k p hp).parent _ c q a i hlink hc (hback.of_live hlive)
  exact (hback.mem_live.mp hq).1 (hparent ▸ List.mem_singleton_self _)

/-- A container that is closed has no handle to give. -/
theorem ContainerShut.of_closed (hw : Regular w) {id : ContainerId} {c : Container}
    (hc : w.containers.get? id = some c) (hr : c.isClosed = true) : ContainerShut id c w w := by
  refine ⟨?_, rfl, fun k => ?_, ?_⟩
  · rw [releasedContainer_of_closed hr, Pool.set_self hc]
  · split
    · next hk =>
      cases hp : w.packages.get? k with
      | none => rfl
      | some p =>
        rw [Option.map_some,
          shutPackage_of_closed (hw.housed.closed_of_member hw.consistent hc hr hk hp)]
    · rfl
  · rw [handlesOf, standing?_of_closed hc hr]
    exact .refl _

/-- A container that stands gives its own handle back first. -/
theorem closeContainer_shut (hw : Regular w) {id : ContainerId} {c : Container}
    (hc : w.containers.get? id = some c) (hr : c.isClosed = false) :
    ContainerShut id c w (closeContainer id w).2 := by
  have hback : GaveBack [c.handle.handle] w.gateway.engine
      (containerReleased id c w).gateway.engine := by
    show GaveBack _ _ (c.handle.giveBack w.gateway).2.engine
    rw [c.handle.giveBack_engine]
    exact takeBack_gaveBack _ _ fun q a i hlive =>
      absurd hlive ((hw.lineage.containers id c hc).2 q a i)
  have hshut : PackagesShut c.packages (containerReleased id c w) _ :=
    closePackages_shut c.packages (hw.consistent.once id c hc) fun k hk p hp _ =>
      hw.free_of_member hc hback hk hp
  rw [closeContainer_of_open hc hr]
  generalize (c.packages.forM closePackageIfOpen (containerReleased id c w)).2 = w2 at hshut ⊢
  refine ⟨?_, hshut.next, hshut.packages, ?_⟩
  · rw [hshut.rest]
    rfl
  · rw [handlesOf, standing?_eq_some.mpr ⟨hc, hr⟩]
    exact hback.trans hshut.engine

theorem closeContainerIfOpen_shut (hw : Regular w) {id : ContainerId} {c : Container}
    (hc : w.containers.get? id = some c) : ContainerShut id c w (closeContainerIfOpen id w).2 := by
  unfold closeContainerIfOpen
  rw [get_bind_apply, hc]
  dsimp only
  cases hr : c.isClosed with
  | true => exact .of_closed hw hc hr
  | false => exact closeContainer_shut hw hc hr

/-- A package that no other container lists belongs to slots alone. -/
theorem packageOwned_of_unlisted {k : PackageId}
    (h : ∀ id c, w.containers.get? id = some c → k ∉ c.packages) :
    w.packageOwned k = w.slots.any fun _ o => o.ownsPackage k := by
  have hnone : w.containers.any (fun c => c.packages.contains k) = false := by
    rw [Bool.eq_false_iff, ne_eq, Pool.any_iff]
    rintro ⟨id, c, hc, hk⟩
    exact h id c hc (List.contains_iff_mem.mp hk)
  unfold packageOwned
  rw [hnone, Bool.or_false]

/-- The container went away with its packages, unless something else owns them, and
nothing else happened. -/
structure ContainerGone (id : ContainerId) (c : Container) (w w' : Host) : Prop where
  rest : w' = { w with containers := w'.containers, packages := w'.packages }
  containersNext : w'.containers.next = w.containers.next
  packagesNext : w'.packages.next = w.packages.next
  containers : ∀ j, w'.containers.get? j
    = if j = id ∧ w.containerOwned id = false then none else w.containers.get? j
  packages : ∀ k, w'.packages.get? k
    = if k ∈ c.packages ∧ w.containerOwned id = false
        ∧ (w.slots.any fun _ o => o.ownsPackage k) = false
      then none else w.packages.get? k

/-- A closed container that loses an owner reaches no engine. -/
theorem dropContainer_gone (hw : Consistent w) {id : ContainerId} {c : Container}
    (hc : w.containers.get? id = some c) (hr : c.isClosed = true)
    (hshut : ∀ k ∈ c.packages, ∀ p, w.packages.get? k = some p → p.isClosed = true) :
    ContainerGone id c w (dropContainer id w).2 := by
  unfold dropContainer
  rw [get_bind_apply]
  cases hown : w.containerOwned id with
  | true =>
    rw [if_pos rfl]
    show ContainerGone id c w w
    exact ⟨rfl, rfl, rfl, fun _ => by simp [hown], fun _ => by simp [hown]⟩
  | false =>
    rw [if_neg Bool.false_ne_true, hc]
    dsimp only
    rw [hr, if_pos rfl]
    have hgone : PackagesGone c.packages { w with containers := w.containers.remove id } _ :=
      dropPackages_gone c.packages hshut
    -- no container is left that lists them
    have howned : ∀ k ∈ c.packages,
        ({ w with containers := w.containers.remove id } : Host).packageOwned k
        = w.slots.any fun _ o => o.ownsPackage k := by
      intro k hk
      refine packageOwned_of_unlisted fun j b hb hk' => ?_
      obtain ⟨hj, hb⟩ := Pool.get?_remove_eq_some.mp hb
      exact hj (hw.member_unique hc hb hk hk')
    show ContainerGone id c w (c.packages.forM dropPackage { w with
      containers := w.containers.remove id }).2
    generalize (c.packages.forM dropPackage { w with containers := w.containers.remove id }).2 = w'
      at hgone ⊢
    refine ⟨?_, ?_, hgone.next, fun j => ?_, fun k => ?_⟩
    · rw [hgone.rest]
    · rw [hgone.rest]
      rfl
    · rw [hgone.rest, hown]
      simp [Pool.get?_remove]
    · rw [hgone.packages, hown]
      by_cases hk : k ∈ c.packages
      · simp [hk, howned k hk]
      · simp [hk]

/-- The container lists the package. -/
def Lists (w : Host) (id : ContainerId) (k : PackageId) : Prop :=
  ∃ c, w.containers.get? id = some c ∧ k ∈ c.packages

theorem lists_iff {id : ContainerId} {c : Container} {k : PackageId}
    (hc : w.containers.get? id = some c) : w.Lists id k ↔ k ∈ c.packages := by
  constructor
  · rintro ⟨c', hc', hk⟩
    rw [hc, Option.some.injEq] at hc'
    exact hc' ▸ hk
  · exact fun hk => ⟨c, hc, hk⟩

theorem Consistent.lists_unique (hw : Consistent w) {id j : ContainerId} {k : PackageId}
    (h : w.Lists id k) (h' : w.Lists j k) : j = id := by
  obtain ⟨c, hc, hk⟩ := h
  obtain ⟨b, hb, hk'⟩ := h'
  exact hw.member_unique hc hb hk hk'

/-- What is left of a container that was closed and given up. -/
def leftContainer? (w : Host) (id : ContainerId) : Option Container :=
  if w.containerOwned id then (w.containers.get? id).map releasedContainer else none

/-- What is left of a package whose container was closed and given up. -/
def leftPackage? (w : Host) (id : ContainerId) (k : PackageId) : Option Package :=
  if w.containerOwned id || w.slots.any (fun _ o => o.ownsPackage k) then
    (w.packages.get? k).map shutPackage
  else none

/-- The containers were closed and given up with their packages, and nothing else
happened to objects. -/
structure Drained (ids : List ContainerId) (w w' : Host) : Prop where
  rest : w' = { w with
    gateway := w'.gateway
    containers := w'.containers
    packages := w'.packages }
  containersNext : w'.containers.next = w.containers.next
  packagesNext : w'.packages.next = w.packages.next
  containers : ∀ id, w'.containers.get? id
    = if id ∈ ids then w.leftContainer? id else w.containers.get? id
  listed : ∀ id ∈ ids, ∀ k, w.Lists id k → w'.packages.get? k = w.leftPackage? id k
  others : ∀ k, (∀ id ∈ ids, ¬ w.Lists id k) → w'.packages.get? k = w.packages.get? k
  engine : GaveBack (ids.flatMap w.handlesOf) w.gateway.engine w'.gateway.engine

/-- No container, nothing to drain. -/
theorem Drained.absent {id : ContainerId} (hc : w.containers.get? id = none) :
    Drained [id] w w := by
  refine ⟨rfl, rfl, rfl, fun j => ?_, fun j hj k ⟨c, hj', _⟩ => ?_, fun _ _ => rfl, ?_⟩
  · split
    · next hj =>
      rw [List.mem_singleton.mp hj, leftContainer?, hc]
      split <;> rfl
    · rfl
  · rw [List.mem_singleton.mp hj, hc] at hj'
    exact absurd hj' (by simp)
  · rw [List.flatMap_singleton, handlesOf, standing?_of_absent hc]
    exact .refl _

/-- A container that is closed and then loses an owner is drained. -/
theorem ContainerShut.drained {id : ContainerId} {c : Container} (h : ContainerShut id c w w')
    (h' : ContainerGone id (releasedContainer c) w' w'') (hc : w.containers.get? id = some c) :
    Drained [id] w w'' := by
  refine ⟨?_, ?_, h'.packagesNext.trans h.next, fun j => ?_, fun j hj k hk => ?_,
    fun k hk => ?_, ?_⟩
  · rw [h'.rest, h.rest]
  · rw [h'.containersNext, h.rest]
    rfl
  · rw [h'.containers, h.containerOwned]
    by_cases hj : j = id
    · subst hj
      rw [h.self, if_pos (List.mem_singleton_self _), leftContainer?, hc]
      cases w.containerOwned j <;> simp
    · rw [if_neg fun h => hj h.1, if_neg fun h => hj (List.mem_singleton.mp h), h.other hj]
  · obtain rfl := List.mem_singleton.mp hj
    rw [lists_iff hc] at hk
    rw [h'.packages, h.packages, h.containerOwned, h.slots, if_pos hk, leftPackage?]
    have hk' : k ∈ (releasedContainer c).packages := hk
    cases w.containerOwned j <;> cases w.slots.any (fun _ o => o.ownsPackage k) <;> simp [hk']
  · have hk : k ∉ c.packages := fun hmem => hk id (List.mem_singleton_self _) ⟨c, hc, hmem⟩
    rw [h'.packages, h.packages, if_neg hk, if_neg fun h => hk h.1]
  · rw [List.flatMap_singleton, h'.rest]
    exact h.engine

/-- **A container closed and given up.** -/
theorem closeAndDrop_drained (hw : Regular w) (id : ContainerId) :
    Drained [id] w (closeAndDrop id w).2 := by
  show Drained [id] w (dropContainer id (closeContainerIfOpen id w).2).2
  cases hc : w.containers.get? id with
  | none =>
    have hclose : closeContainerIfOpen id w = ((), w) := by
      unfold closeContainerIfOpen
      rw [get_bind_apply, hc]
      rfl
    have hdrop : (dropContainer id w).2 = w := by
      unfold dropContainer
      rw [get_bind_apply, hc]
      split <;> rfl
    rw [hclose, hdrop]
    exact .absent hc
  | some c =>
    have hshut := closeContainerIfOpen_shut hw hc
    have hclosed : Consistent (closeContainerIfOpen id w).2 :=
      (closeContainerIfOpen_later (S := .any) hw.consistent trivial).1.after
    exact hshut.drained (dropContainer_gone hclosed hshut.self rfl fun _ hk _ => hshut.closed hk) hc

/-! ## §3. Several containers, one after the other. -/

namespace Drained

variable {ids ids' : List ContainerId} {w₁ w₂ : Host}

theorem nil (w : Host) : Drained [] w w :=
  ⟨rfl, rfl, rfl, fun _ => by simp, fun _ h => absurd h List.not_mem_nil, fun _ _ => rfl, .refl _⟩

theorem slots (h : Drained ids w w') : w'.slots = w.slots := by rw [h.rest]

/-- The containers that were not drained are as they were. -/
theorem get?_of_not_mem (h : Drained ids w w') {id : ContainerId} (hid : id ∉ ids) :
    w'.containers.get? id = w.containers.get? id := by
  rw [h.containers, if_neg hid]

theorem lists_of_not_mem (h : Drained ids w w') {id : ContainerId} {k : PackageId}
    (hid : id ∉ ids) :
    w'.Lists id k ↔ w.Lists id k := by
  unfold Lists
  rw [h.get?_of_not_mem hid]

/-- So are the packages that they list. -/
theorem packages_of_not_mem (h : Drained ids w w') (hw : Consistent w) {id : ContainerId}
    {k : PackageId} (hid : id ∉ ids) (hk : w.Lists id k) :
    w'.packages.get? k = w.packages.get? k :=
  h.others k fun _ hj hk' => hid (hw.lists_unique hk hk' ▸ hj)

/-- What would be left of them is what would have been left of them before. -/
theorem left_of_not_mem (h : Drained ids w w') (hw : Consistent w) {id : ContainerId}
    (hid : id ∉ ids) :
    w'.leftContainer? id = w.leftContainer? id
      ∧ (∀ k, w.Lists id k → w'.leftPackage? id k = w.leftPackage? id k)
      ∧ w'.handlesOf id = w.handlesOf id := by
  have howned : w'.containerOwned id = w.containerOwned id := by
    unfold containerOwned
    rw [h.slots]
  refine ⟨?_, fun k hk => ?_, ?_⟩
  · rw [leftContainer?, leftContainer?, howned, h.get?_of_not_mem hid]
  · rw [leftPackage?, leftPackage?, howned, h.slots, h.packages_of_not_mem hw hid hk]
  · have hst : w'.standing? id = w.standing? id := by
      unfold standing?
      rw [h.get?_of_not_mem hid]
    unfold handlesOf
    rw [hst]
    cases hc : w.standing? id with
    | none => rfl
    | some c =>
      have hopen : w'.openHandles c = w.openHandles c := by
        refine List.filterMap_congr fun k hk => ?_
        unfold packageHandle?
        rw [h.packages_of_not_mem hw hid ⟨c, (standing?_eq_some.mp hc).1, hk⟩]
      dsimp only
      rw [hopen]

/-- Other containers drained after some. -/
theorem trans (h : Drained ids w w') (h' : Drained ids' w' w'') (hw : Consistent w)
    (hdisjoint : ∀ id ∈ ids', id ∉ ids) : Drained (ids ++ ids') w w'' := by
  refine ⟨?_, h'.containersNext.trans h.containersNext, h'.packagesNext.trans h.packagesNext,
    fun id => ?_, fun id hid k hk => ?_, fun k hk => ?_, ?_⟩
  · rw [h'.rest, h.rest]
  · rw [h'.containers]
    by_cases hid : id ∈ ids'
    · rw [if_pos hid, if_pos (List.mem_append_right _ hid),
        (h.left_of_not_mem hw (hdisjoint id hid)).1]
    · rw [if_neg hid, h.containers]
      simp [hid]
  · rcases List.mem_append.mp hid with hid | hid
    · -- what was drained first is listed by none of the others
      rw [h'.others k fun j hj hk' => ?_, h.listed id hid k hk]
      have hnot := hdisjoint j hj
      exact hnot (hw.lists_unique hk ((h.lists_of_not_mem hnot).mp hk') ▸ hid)
    · have hnot := hdisjoint id hid
      rw [h'.listed id hid k ((h.lists_of_not_mem hnot).mpr hk),
        (h.left_of_not_mem hw hnot).2.1 k hk]
  · rw [h'.others k fun j hj hk' => ?_, h.others k fun j hj => hk j (List.mem_append_left _ hj)]
    exact hk j (List.mem_append_right _ hj) ((h.lists_of_not_mem (hdisjoint j hj)).mp hk')
  · have hhandles : ids'.flatMap w'.handlesOf = ids'.flatMap w.handlesOf :=
      List.flatMap_congr fun j hj => (h.left_of_not_mem hw (hdisjoint j hj)).2.2
    rw [List.flatMap_append, ← hhandles]
    exact h.engine.trans h'.engine

/-- **The order does not matter**: the objects are the same afterwards, and so are the
books of the engine but for the order of releases. -/
theorem determined (h₁ : Drained ids w w₁) (h₂ : Drained ids' w w₂) (hp : ids.Perm ids') :
    w₂ = { w₁ with gateway := w₂.gateway } ∧ SameBooks w₁.gateway.engine w₂.gateway.engine := by
  have hcontainers : w₂.containers = w₁.containers := by
    refine Pool.ext (fun id => ?_) (h₂.containersNext.trans h₁.containersNext.symm)
    rw [h₂.containers, h₁.containers]
    simp only [hp.mem_iff]
  have hpackages : w₂.packages = w₁.packages := by
    refine Pool.ext (fun k => ?_) (h₂.packagesNext.trans h₁.packagesNext.symm)
    -- a package depends on the one container that lists it, whenever its turn comes
    by_cases hk : ∃ id ∈ ids, w.Lists id k
    · obtain ⟨id, hid, hk⟩ := hk
      rw [h₂.listed id (hp.mem_iff.mp hid) k hk, h₁.listed id hid k hk]
    · have hnone : ∀ id ∈ ids, ¬ w.Lists id k := fun id hid h => hk ⟨id, hid, h⟩
      rw [h₂.others k fun id hid => hnone id (hp.mem_iff.mpr hid), h₁.others k hnone]
  refine ⟨?_, h₁.engine.perm h₂.engine (hp.flatMap_right _)⟩
  rw [h₂.rest, hcontainers, hpackages, h₁.rest]

/-- A container that was drained does not stand. -/
theorem gone (h : Drained ids w w') (hw : Consistent w) {id : ContainerId} {c : Container}
    (hid : id ∈ ids) (hc : w.containers.get? id = some c) : w'.Gone id := by
  refine ⟨h.containersNext ▸ hw.containerIds id c hc, ?_⟩
  have hleft : w'.containers.get? id = w.leftContainer? id := by rw [h.containers, if_pos hid]
  rw [leftContainer?, hc] at hleft
  split at hleft
  · exact standing?_of_closed hleft rfl
  · exact standing?_of_absent hleft

/-- Nor is a package open that it listed. -/
theorem shut (h : Drained ids w w') (hw : Consistent w) {id : ContainerId} {k : PackageId}
    (hid : id ∈ ids) (hk : w.Lists id k) : w'.Shut k := by
  obtain ⟨c, hc, hmem⟩ := hk
  obtain ⟨p, hp, -⟩ := hw.members id c hc k hmem
  refine ⟨h.packagesNext ▸ hw.packageIds k p hp, fun p' hp' => ?_⟩
  rw [h.listed id hid k ⟨c, hc, hmem⟩, leftPackage?] at hp'
  split at hp'
  · rw [hp, Option.map_some, Option.some.injEq] at hp'
    exact hp' ▸ isClosed_shutPackage p
  · exact absurd hp' (by simp)

end Drained

/-- What drains a container keeps the host regular. -/
theorem Regular.closeAndDrop (hw : Regular w) (id : ContainerId) :
    Regular (Host.closeAndDrop id w).2 := by
  have hdrained := closeAndDrop_drained hw id
  exact hw.later (S := .any) (closeAndDrop_later hw.consistent trivial).1
    (asks_gatewise.slotwise.toOutward.inward.closeAndDrop id w) hdrained.packagesNext
    hdrained.containersNext

/-- **Several containers closed and given up**, one after the other. -/
theorem closeAndDropAll_drained (ids : List ContainerId) (hn : ids.Nodup) (hw : Regular w) :
    Drained ids w (ids.forM Host.closeAndDrop w).2 := by
  -- each step keeps the host regular, and the containers to come are not drained yet
  induction ids generalizing w with
  | nil => exact .nil w
  | cons id ids ih =>
    obtain ⟨hid, hn⟩ := List.nodup_cons.mp hn
    have hone := closeAndDrop_drained hw id
    have hrest : Drained ids (closeAndDrop id w).2 ((id :: ids).forM Host.closeAndDrop w).2 :=
      ih hn (hw.closeAndDrop id)
    refine hone.trans hrest hw.consistent fun j hj hmem => hid ?_
    exact List.mem_singleton.mp hmem ▸ hj

/-- Every host of a run is regular that loads no package alone. -/
theorem regular_after (cs : List Command) (hcs : ∀ c ∈ cs, c.loadsAlone = false) :
    Regular (after cs fresh) :=
  ⟨consistent_after cs, housed_after cs hcs, lineage_after cs hcs, (orderly_after cs .fresh).engine⟩

end EpubAccess.Host
