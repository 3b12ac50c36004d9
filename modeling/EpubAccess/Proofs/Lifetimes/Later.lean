/-
  EpubAccess.Proofs.Lifetimes.Later
  ────────────────────────────────
  What a host cannot undo, whatever it is asked for.

  `Host.Consistent` says that the objects of a host fit together: numbers are
  used once, lists name packages that are attached there, each of them once,
  and what a slot owns is there.  `Host.Later S w w'` says that `w'` came out
  of `w` within a scope: objects are the same or later ones, a container stops
  standing only on request or with its last owner, and its packages are closed
  with it.  It is closed under sequencing (`Later.trans`).

  Unlike `Host.Reaches` it asks nothing of the engine, so it holds of hosts
  that go around the library too.
-/
import EpubAccess.Proofs.Lifetimes.Forward
import EpubAccess.Proofs.Ownership.Teardown

namespace EpubAccess.Host

open Stateful

variable {w w' w'' : Host}

/-! ## §1. Hosts whose objects fit together. -/

/-- The objects of a host fit together. -/
structure Consistent (w : Host) : Prop where
  containerIds : ∀ id c, w.containers.get? id = some c → id < w.containers.next
  packageIds : ∀ k p, w.packages.get? k = some p → k < w.packages.next
  kinds : ∀ k p, w.packages.get? k = some p → p.handle.kind = .package
  members : ∀ id c, w.containers.get? id = some c →
    ∀ k ∈ c.packages, ∃ p, w.packages.get? k = some p ∧ p.link = some ⟨id, c.path⟩
  once : ∀ id c, w.containers.get? id = some c → c.packages.Nodup
  ownedContainers : ∀ (m : String) o, w.slots[m]? = some o →
    ∀ id ∈ o.containers, ∃ c, w.containers.get? id = some c
  ownedPackages : ∀ (m : String) o, w.slots[m]? = some o →
    ∀ k ∈ o.packages, ∃ p, w.packages.get? k = some p

theorem Consistent.fresh : Consistent fresh := by
  refine ⟨?_, ?_, ?_, ?_, ?_, ?_, ?_⟩ <;> intro _ _ h <;> simp [Host.fresh] at h

theorem standing?_of_absent {id : ContainerId} (hc : w.containers.get? id = none) :
    w.standing? id = none := by
  unfold standing?
  rw [hc]
  rfl

theorem standing?_of_closed {id : ContainerId} {c : Container} (hc : w.containers.get? id = some c)
    (hr : c.isClosed = true) : w.standing? id = none := by
  unfold standing?
  rw [hc]
  simp [Option.filter, hr]

/-- The container was closed, or it is gone for good. -/
def Gone (w : Host) (id : ContainerId) : Prop := id < w.containers.next ∧ w.standing? id = none

/-- The package was closed, or it is gone for good. -/
def Shut (w : Host) (k : PackageId) : Prop :=
  k < w.packages.next ∧ ∀ p, w.packages.get? k = some p → p.isClosed = true

theorem Consistent.standing_next (hw : Consistent w) {id : ContainerId} {c : Container}
    (h : w.standing? id = some c) : id < w.containers.next :=
  hw.containerIds id c (standing?_eq_some.mp h).1

/-- A package that is attached to nothing is in no list. -/
theorem Consistent.not_mem_of_loose (hw : Consistent w) {id : ContainerId} {c : Container}
    {k : PackageId} {p : Package} (hc : w.containers.get? id = some c)
    (hp : w.packages.get? k = some p) (hlink : p.link = none) : k ∉ c.packages := by
  intro hk
  obtain ⟨q, hq, hlink'⟩ := hw.members id c hc k hk
  rw [hp, Option.some.injEq] at hq
  exact absurd (hlink.symm.trans (hq ▸ hlink')) (by simp)

/-- A package belongs to no list but that of the container that it is attached to. -/
theorem Consistent.member_unique (hw : Consistent w) {id j : ContainerId} {c b : Container}
    {k : PackageId} (hc : w.containers.get? id = some c) (hb : w.containers.get? j = some b)
    (hk : k ∈ c.packages) (hk' : k ∈ b.packages) : j = id := by
  obtain ⟨p, hp, hlink⟩ := hw.members id c hc k hk
  obtain ⟨q, hq, hlink'⟩ := hw.members j b hb k hk'
  rw [hp, Option.some.injEq] at hq
  rw [← hq, hlink, Option.some.injEq, ContainerLink.mk.injEq] at hlink'
  exact hlink'.1.symm

/-! ## §2. Later hosts. -/

/-- What may be done to the objects of a host. -/
structure Scope where
  /-- What a slot that is not left alone may hold afterwards. -/
  slots : String → Option Holding → Prop
  /-- The containers that are to be closed. -/
  closing : ContainerId → Prop
  /-- The packages that are to be closed. -/
  shutting : PackageId → Prop
  /-- The containers whose lists may gain. -/
  attaching : ContainerId → Prop

/-- The host `w'` came out of `w` within a scope. -/
structure Later (S : Scope) (w w' : Host) : Prop where
  before : Consistent w
  after : Consistent w'
  issued : w.gateway.engine.issued ≤ w'.gateway.engine.issued
  containersNext : w.containers.next ≤ w'.containers.next
  packagesNext : w.packages.next ≤ w'.packages.next
  containers : ∀ id c', w'.containers.get? id = some c' → w.containers.next ≤ id ∨
    ∃ c, w.containers.get? id = some c ∧ c.Later c' ∧ (c'.packages = c.packages ∨ S.attaching id)
  packages : ∀ k p', w'.packages.get? k = some p' → w.packages.next ≤ k ∨
    ∃ p, w.packages.get? k = some p ∧ p.Later p'
  /-- A container stops standing on request or with its last owner. -/
  closed : ∀ id c, w.standing? id = some c → w'.standing? id = none →
    S.closing id ∨ w'.containers.get? id = none
  /-- The packages of a container that stops standing are closed. -/
  torn : ∀ id c, w.standing? id = some c → w'.standing? id = none → ∀ k ∈ c.packages, w'.Shut k
  /-- A package is closed on request or with its container. -/
  shut : ∀ k p', w'.packages.get? k = some p' → p'.isClosed = true →
    (∃ p, w.packages.get? k = some p ∧ p.isClosed = true) ∨ S.shutting k
      ∨ ∃ link, p'.link = some link ∧ w'.Gone link.container
  slots : ∀ m : String, w'.slots[m]? = w.slots[m]? ∨ S.slots m w'.slots[m]?

namespace Later

variable {S : Scope}

/-- What is gone stays gone. -/
theorem gone (h : Later S w w') {id : ContainerId} (hg : w.Gone id) : w'.Gone id := by
  refine ⟨Nat.lt_of_lt_of_le hg.1 h.containersNext, ?_⟩
  cases hst : w'.standing? id with
  | none => rfl
  | some c' =>
    obtain ⟨hc', hopen⟩ := standing?_eq_some.mp hst
    rcases h.containers id c' hc' with hnew | ⟨c, hc, hlater, -⟩
    · exact absurd hg.1 (Nat.not_lt.mpr hnew)
    · have hr : c.handle.released = false := by
        cases hr : c.handle.released with
        | false => rfl
        | true => exact absurd ((hlater.handle.released hr).symm.trans hopen) (by simp)
      exact absurd ((standing?_eq_some.mpr ⟨hc, hr⟩).symm.trans hg.2) (by simp)

/-- What is closed stays closed. -/
theorem staysShut (h : Later S w w') {k : PackageId} (hk : w.Shut k) : w'.Shut k := by
  refine ⟨Nat.lt_of_lt_of_le hk.1 h.packagesNext, fun p' hp' => ?_⟩
  rcases h.packages k p' hp' with hnew | ⟨p, hp, hlater⟩
  · exact absurd hk.1 (Nat.not_lt.mpr hnew)
  · exact hlater.isClosed (hk.2 p hp)

/-- A container that went away does not come back. -/
theorem absent (h : Later S w w') {id : ContainerId} (hlt : id < w.containers.next)
    (hn : w.containers.get? id = none) : w'.containers.get? id = none := by
  cases hc' : w'.containers.get? id with
  | none => rfl
  | some c' =>
    rcases h.containers id c' hc' with hnew | ⟨c, hc, -⟩
    · exact absurd hlt (Nat.not_lt.mpr hnew)
    · exact absurd (hn.symm.trans hc) (by simp)

/-- An object that is there before and after is a later one. -/
theorem container (h : Later S w w') {id : ContainerId} {c c' : Container}
    (hc : w.containers.get? id = some c) (hc' : w'.containers.get? id = some c') : c.Later c' := by
  rcases h.containers id c' hc' with hnew | ⟨b, hb, hlater, -⟩
  · exact absurd (h.before.containerIds id c hc) (Nat.not_lt.mpr hnew)
  · rw [hc, Option.some.injEq] at hb
    exact hb ▸ hlater

/-- A list that may not gain stays as it is. -/
theorem list (h : Later S w w') {id : ContainerId} {c c' : Container}
    (hc : w.containers.get? id = some c) (hc' : w'.containers.get? id = some c')
    (hs : ¬ S.attaching id) : c'.packages = c.packages := by
  rcases h.containers id c' hc' with hnew | ⟨b, hb, -, hlist⟩
  · exact absurd (h.before.containerIds id c hc) (Nat.not_lt.mpr hnew)
  · rw [hc, Option.some.injEq] at hb
    exact hb ▸ hlist.resolve_right hs

theorem package (h : Later S w w') {k : PackageId} {p p' : Package}
    (hp : w.packages.get? k = some p) (hp' : w'.packages.get? k = some p') : p.Later p' := by
  rcases h.packages k p' hp' with hnew | ⟨q, hq, hlater⟩
  · exact absurd (h.before.packageIds k p hp) (Nat.not_lt.mpr hnew)
  · rw [hp, Option.some.injEq] at hq
    exact hq ▸ hlater

theorem refl (S : Scope) (hw : Consistent w) : Later S w w :=
  ⟨hw, hw, Nat.le_refl _, Nat.le_refl _, Nat.le_refl _, fun _ c h => .inr ⟨c, h, .refl c, .inl rfl⟩,
    fun _ p h => .inr ⟨p, h, .refl p⟩, fun _ _ h h' => absurd (h.symm.trans h') (by simp),
    fun _ _ h h' => absurd (h.symm.trans h') (by simp), fun _ p h hc => .inl ⟨p, h, hc⟩,
    fun _ => .inl rfl⟩

theorem trans (h : Later S w w') (h' : Later S w' w'') : Later S w w'' := by
  refine ⟨h.before, h'.after, Nat.le_trans h.issued h'.issued,
    Nat.le_trans h.containersNext h'.containersNext, Nat.le_trans h.packagesNext h'.packagesNext,
    fun id c'' hc'' => ?_, fun k p'' hp'' => ?_, fun id c hst hst'' => ?_, fun id c hst hst'' => ?_,
    fun k p'' hp'' hr => ?_, fun m => ?_⟩
  · rcases h'.containers id c'' hc'' with hnew | ⟨c', hc', hlater', hlist'⟩
    · exact .inl (Nat.le_trans h.containersNext hnew)
    rcases h.containers id c' hc' with hnew | ⟨c, hc, hlater, hlist⟩
    · exact .inl hnew
    refine .inr ⟨c, hc, hlater.trans hlater', ?_⟩
    rcases hlist' with hlist' | hattach
    · exact hlist.imp_left hlist'.trans
    · exact .inr hattach
  · rcases h'.packages k p'' hp'' with hnew | ⟨p', hp', hlater'⟩
    · exact .inl (Nat.le_trans h.packagesNext hnew)
    · exact (h.packages k p' hp').imp_right fun ⟨p, hp, hlater⟩ => ⟨p, hp, hlater.trans hlater'⟩
  · cases hst' : w'.standing? id with
    | some c' => exact h'.closed id c' hst' hst''
    | none =>
      refine (h.closed id c hst hst').imp_right fun hnone => h'.absent ?_ hnone
      exact Nat.lt_of_lt_of_le (h.before.standing_next hst) h.containersNext
  · -- the container fell in the first step, or it still stood with a list that only gained
    cases hst' : w'.standing? id with
    | none => exact fun k hk => h'.staysShut (h.torn id c hst hst' k hk)
    | some c' =>
      have hlater := h.container (standing?_eq_some.mp hst).1 (standing?_eq_some.mp hst').1
      exact fun k hk => h'.torn id c' hst' hst'' k (hlater.mem hk)
  · rcases h'.shut k p'' hp'' hr with ⟨p', hp', hr'⟩ | hreason
    · rcases h.shut k p' hp' hr' with hbefore | hshut | ⟨link, hlink, hgone⟩
      · exact .inl hbefore
      · exact .inr (.inl hshut)
      · exact .inr (.inr ⟨link, (h'.package hp' hp'').link link hlink, h'.gone hgone⟩)
    · exact .inr hreason
  · rcases h'.slots m with hsame | hput
    · exact (h.slots m).imp hsame.trans fun hput => hsame ▸ hput
    · exact .inr hput

/-- Within a scope without slots they are all as before. -/
theorem sameSlots (h : Later { S with slots := fun _ _ => False } w w') (m : String) :
    w'.slots[m]? = w.slots[m]? :=
  (h.slots m).resolve_right id

/-- Work on slots may be told by what they hold in the end. -/
theorem restateSlots {slots : String → Option Holding → Prop}
    (h : Later { S with slots } w w')
    (hs : ∀ m : String, w'.slots[m]? = w.slots[m]? ∨ S.slots m w'.slots[m]?) :
    Later S w w' :=
  ⟨h.before, h.after, h.issued, h.containersNext, h.packagesNext, h.containers,
    h.packages, h.closed, h.torn, h.shut, hs⟩

/-- The closing of a container that goes away need not be told. -/
theorem restateClosing {closing : ContainerId → Prop} (h : Later { S with closing } w w')
    (hc : ∀ id, closing id → S.closing id ∨ w'.containers.get? id = none) : Later S w w' :=
  ⟨h.before, h.after, h.issued, h.containersNext, h.packagesNext, h.containers, h.packages,
    fun id c hst hst' => (h.closed id c hst hst').elim (hc id) .inr, h.torn, h.shut, h.slots⟩

/-! ## §3. Single steps. -/

/-- Work at the gateway, and on whatever else is no object. -/
theorem same (hw : Consistent w) {g : Gateway} {n : Notifier} {fs : Files} {b : Bool}
    (hg : w.gateway.engine.issued ≤ g.engine.issued) :
    Later S w { w with gateway := g, notifier := n, files := fs, libraryClosed := b } :=
  have h := refl S hw
  ⟨hw, ⟨hw.containerIds, hw.packageIds, hw.kinds, hw.members, hw.once, hw.ownedContainers,
      hw.ownedPackages⟩,
    hg, h.containersNext, h.packagesNext, h.containers, h.packages, h.closed, h.torn,
    h.shut, h.slots⟩

/-- Slots that change hold only what is there. -/
theorem withSlots (hw : Consistent w) {slots : Std.ExtTreeMap String Holding}
    (hobjects : ∀ (m : String) o, slots[m]? = some o → w.slots[m]? = some o ∨
      (∀ id ∈ o.containers, ∃ c, w.containers.get? id = some c)
        ∧ ∀ k ∈ o.packages, ∃ p, w.packages.get? k = some p)
    (hs : ∀ m : String, slots[m]? = w.slots[m]? ∨ S.slots m slots[m]?) :
    Later S w { w with slots } :=
  have h := refl S hw
  ⟨hw, ⟨hw.containerIds, hw.packageIds, hw.kinds, hw.members, hw.once,
      fun m o ho => (hobjects m o ho).elim (hw.ownedContainers m o) (·.1),
      fun m o ho => (hobjects m o ho).elim (hw.ownedPackages m o) (·.2)⟩,
    h.issued, h.containersNext, h.packagesNext, h.containers, h.packages, h.closed,
    h.torn, h.shut, hs⟩

/-- A slot filled with what is there. -/
theorem update (hw : Consistent w) {m : String} {o : Holding}
    (hc : ∀ id ∈ o.containers, ∃ c, w.containers.get? id = some c)
    (hp : ∀ k ∈ o.packages, ∃ p, w.packages.get? k = some p) (hs : S.slots m (some o)) :
    Later S w { w with slots := w.slots.insert m o } := by
  refine withSlots hw (fun l q hq => ?_) fun l => ?_
  · rw [Std.ExtTreeMap.getElem?_insert] at hq
    split at hq
    · rw [Option.some.injEq] at hq
      exact .inr (hq ▸ ⟨hc, hp⟩)
    · exact .inl hq
  · rw [Std.ExtTreeMap.getElem?_insert]
    split
    · next h => exact .inr (Std.LawfulEqCmp.compare_eq_iff_eq.mp h ▸ hs)
    · exact .inl rfl

/-- A slot emptied. -/
theorem erase (hw : Consistent w) {m : String} (hs : S.slots m none) :
    Later S w { w with slots := w.slots.erase m } := by
  refine withSlots hw (fun l q hq => ?_) fun l => ?_
  · rw [Std.ExtTreeMap.getElem?_erase] at hq
    split at hq
    · exact absurd hq (by simp)
    · exact .inl hq
  · rw [Std.ExtTreeMap.getElem?_erase]
    split
    · next h => exact .inr (Std.LawfulEqCmp.compare_eq_iff_eq.mp h ▸ hs)
    · exact .inl rfl

/-- A package noted anew, as open as before. -/
theorem setPackage (hw : Consistent w) {k : PackageId} {p p' : Package}
    (hp : w.packages.get? k = some p) (hlater : p.Later p') (hr : p'.isClosed = p.isClosed) :
    Later S w { w with packages := w.packages.set k p' } := by
  have h := refl S hw
  have hkeep : ∀ j q, w.packages.get? j = some q →
      ∃ q', (w.packages.set k p').get? j = some q' ∧ q.Later q' := by
    intro j q hq
    by_cases hj : j = k
    · rw [hj, hp, Option.some.injEq] at hq
      exact ⟨p', hj ▸ Pool.get?_set_self .., hq ▸ hlater⟩
    · exact ⟨q, (Pool.get?_set_ne hj).trans hq, .refl q⟩
  have hback : ∀ j q', (w.packages.set k p').get? j = some q' →
      ∃ q, w.packages.get? j = some q ∧ q.Later q' ∧ q'.isClosed = q.isClosed := by
    intro j q' hq'
    rcases Pool.get?_set_eq_some.mp hq' with ⟨rfl, rfl⟩ | ⟨-, hq⟩
    · exact ⟨p, hp, hlater, hr⟩
    · exact ⟨q', hq, .refl q', rfl⟩
  refine ⟨hw, ⟨hw.containerIds, fun j q' hq' => ?_, fun j q' hq' => ?_, fun id c hc j hj => ?_,
      hw.once, hw.ownedContainers, fun m o ho j hj => ?_⟩,
    h.issued, h.containersNext, h.packagesNext, h.containers, fun j q' hq' => ?_, h.closed,
    fun id c hst hst' => absurd (hst.symm.trans hst') (by simp), fun j q' hq' hc => ?_, h.slots⟩
  · obtain ⟨q, hq, -⟩ := hback j q' hq'
    exact hw.packageIds j q hq
  · obtain ⟨q, hq, hl, -⟩ := hback j q' hq'
    exact hl.handle.kind.trans (hw.kinds j q hq)
  · obtain ⟨q, hq, hlink⟩ := hw.members id c hc j hj
    obtain ⟨q', hq', hl⟩ := hkeep j q hq
    exact ⟨q', hq', hl.link _ hlink⟩
  · obtain ⟨q, hq⟩ := hw.ownedPackages m o ho j hj
    obtain ⟨q', hq', -⟩ := hkeep j q hq
    exact ⟨q', hq'⟩
  · obtain ⟨q, hq, hl, -⟩ := hback j q' hq'
    exact .inr ⟨q, hq, hl⟩
  · obtain ⟨q, hq, -, hsame⟩ := hback j q' hq'
    exact .inl ⟨q, hq, hsame.symm.trans hc⟩

/-- An open package added. -/
theorem addPackage (hw : Consistent w) {p : Package} (hk : p.handle.kind = .package)
    (hr : p.isClosed = false) : Later S w { w with packages := (w.packages.add p).2 } := by
  have h := refl S hw
  have hkeep : ∀ j q, w.packages.get? j = some q → (w.packages.add p).2.get? j = some q := by
    intro j q hq
    exact Pool.get?_add_eq_some.mpr (.inr ⟨Nat.ne_of_lt (hw.packageIds j q hq), hq⟩)
  refine ⟨hw, ⟨hw.containerIds, fun j q hq => ?_, fun j q hq => ?_, fun id c hc j hj => ?_,
      hw.once, hw.ownedContainers, fun m o ho j hj => ?_⟩,
    h.issued, h.containersNext, Nat.le_succ _, h.containers, fun j q hq => ?_, h.closed,
    fun id c hst hst' => absurd (hst.symm.trans hst') (by simp), fun j q hq hc => ?_, h.slots⟩
  · rcases Pool.get?_add_eq_some.mp hq with ⟨rfl, -⟩ | ⟨-, hq⟩
    · exact Nat.lt_succ_self _
    · exact Nat.lt_succ_of_lt (hw.packageIds j q hq)
  · rcases Pool.get?_add_eq_some.mp hq with ⟨-, rfl⟩ | ⟨-, hq⟩
    · exact hk
    · exact hw.kinds j q hq
  · obtain ⟨q, hq, hlink⟩ := hw.members id c hc j hj
    exact ⟨q, hkeep j q hq, hlink⟩
  · obtain ⟨q, hq⟩ := hw.ownedPackages m o ho j hj
    exact ⟨q, hkeep j q hq⟩
  · rcases Pool.get?_add_eq_some.mp hq with ⟨rfl, -⟩ | ⟨-, hq⟩
    · exact .inl (Nat.le_refl _)
    · exact .inr ⟨q, hq, .refl q⟩
  · rcases Pool.get?_add_eq_some.mp hq with ⟨-, rfl⟩ | ⟨-, hq⟩
    · exact absurd (hr.symm.trans hc) (by simp)
    · exact .inl ⟨q, hq, hc⟩

/-- A container added over packages that are attached to it. -/
theorem addContainer (hw : Consistent w) {c : Container}
    (hmembers : ∀ k ∈ c.packages,
      ∃ p, w.packages.get? k = some p ∧ p.link = some ⟨w.containers.next, c.path⟩)
    (honce : c.packages.Nodup) :
    Later S w { w with containers := (w.containers.add c).2 } := by
  have h := refl S hw
  have hkeep : ∀ j b, w.containers.get? j = some b → (w.containers.add c).2.get? j = some b := by
    intro j b hb
    exact Pool.get?_add_eq_some.mpr (.inr ⟨Nat.ne_of_lt (hw.containerIds j b hb), hb⟩)
  have hstays : ∀ id b, w.standing? id = some b →
      standing? { w with containers := (w.containers.add c).2 } id = some b := by
    intro id b hb
    obtain ⟨hget, hopen⟩ := standing?_eq_some.mp hb
    exact standing?_eq_some.mpr ⟨hkeep id b hget, hopen⟩
  refine ⟨hw, ⟨fun j b hb => ?_, hw.packageIds, hw.kinds, fun j b hb => ?_, fun j b hb => ?_,
      fun m o ho j hj => ?_, hw.ownedPackages⟩,
    h.issued, Nat.le_succ _, h.packagesNext, fun j b hb => ?_, h.packages,
    fun id b hst hst' => absurd ((hstays id b hst).symm.trans hst') (by simp),
    fun id b hst hst' => absurd ((hstays id b hst).symm.trans hst') (by simp),
    fun k p hp hr => .inl ⟨p, hp, hr⟩, h.slots⟩
  · rcases Pool.get?_add_eq_some.mp hb with ⟨rfl, -⟩ | ⟨-, hb⟩
    · exact Nat.lt_succ_self _
    · exact Nat.lt_succ_of_lt (hw.containerIds j b hb)
  · rcases Pool.get?_add_eq_some.mp hb with ⟨rfl, rfl⟩ | ⟨-, hb⟩
    · exact hmembers
    · exact hw.members j b hb
  · rcases Pool.get?_add_eq_some.mp hb with ⟨-, rfl⟩ | ⟨-, hb⟩
    · exact honce
    · exact hw.once j b hb
  · obtain ⟨b, hb⟩ := hw.ownedContainers m o ho j hj
    exact ⟨b, hkeep j b hb⟩
  · rcases Pool.get?_add_eq_some.mp hb with ⟨rfl, -⟩ | ⟨-, hb⟩
    · exact .inl (Nat.le_refl _)
    · exact .inr ⟨b, hb, .refl b, .inl rfl⟩

/-- A package that belongs to no list put at the end of one. -/
theorem attach (hw : Consistent w) {id : ContainerId} {c : Container} {k : PackageId}
    {p : Package} (hc : w.containers.get? id = some c) (hp : w.packages.get? k = some p)
    (hlink : p.link = none) (hs : S.attaching id) :
    Later S w { w with
      packages := w.packages.set k { p with link := some ⟨id, c.path⟩ }
      containers := w.containers.set id { c with packages := c.packages ++ [k] } } := by
  have hset : Later S w
      { w with packages := w.packages.set k { p with link := some ⟨id, c.path⟩ } } :=
    setPackage hw hp ⟨.refl _, fun link h => absurd (hlink.symm.trans h) (by simp), rfl⟩ rfl
  refine hset.trans ?_
  have hw1 := hset.after
  have h := refl S hw1
  have hk : (w.packages.set k { p with link := some ⟨id, c.path⟩ }).get? k
      = some { p with link := some ⟨id, c.path⟩ } := Pool.get?_set_self ..
  generalize w.packages.set k { p with link := some ⟨id, c.path⟩ } = ps at hw1 h hk ⊢
  have hback : ∀ j b',
      (w.containers.set id { c with packages := c.packages ++ [k] }).get? j = some b' →
      ∃ b, w.containers.get? j = some b ∧ b.Later b' ∧ (b'.packages = b.packages ∨ j = id)
        ∧ ∀ i ∈ b'.packages, i ∈ b.packages ∨ i = k ∧ j = id := by
    intro j b' hb'
    rcases Pool.get?_set_eq_some.mp hb' with ⟨rfl, rfl⟩ | ⟨-, hb⟩
    · exact ⟨c, hc, ⟨.refl _, rfl, List.prefix_append ..⟩, .inr rfl, fun i hi => by simpa using hi⟩
    · exact ⟨b', hb, .refl b', .inl rfl, fun i hi => .inl hi⟩
  have hkeep : ∀ j b, w.containers.get? j = some b →
      ∃ b', (w.containers.set id { c with packages := c.packages ++ [k] }).get? j = some b'
        ∧ b'.handle = b.handle := by
    intro j b hb
    by_cases hj : j = id
    · rw [hj, hc, Option.some.injEq] at hb
      exact ⟨{ c with packages := c.packages ++ [k] }, hj ▸ Pool.get?_set_self .., by rw [← hb]⟩
    · exact ⟨b, (Pool.get?_set_ne hj).trans hb, rfl⟩
  have hstays : ∀ j b, w.standing? j = some b → standing? { w with
      packages := ps
      containers := w.containers.set id { c with packages := c.packages ++ [k] } } j ≠ none := by
    intro j b hb
    obtain ⟨hget, hopen⟩ := standing?_eq_some.mp hb
    obtain ⟨b', hb', hhandle⟩ := hkeep j b hget
    rw [standing?_eq_some.mpr ⟨hb', hhandle ▸ hopen⟩]
    exact Option.some_ne_none _
  refine ⟨hw1, ⟨fun j b' hb' => ?_, hw1.packageIds, hw1.kinds, fun j b' hb' i hi => ?_,
      fun j b' hb' => ?_, fun m o ho j hj => ?_, hw1.ownedPackages⟩,
    h.issued, h.containersNext, h.packagesNext, fun j b' hb' => ?_, h.packages,
    fun j b hst hst' => absurd hst' (hstays j b hst),
    fun j b hst hst' => absurd hst' (hstays j b hst), fun i q hq hr => .inl ⟨q, hq, hr⟩, h.slots⟩
  · obtain ⟨b, hb, -⟩ := hback j b' hb'
    exact hw.containerIds j b hb
  · obtain ⟨b, hb, hlater, -, hmem⟩ := hback j b' hb'
    rcases hmem i hi with hi | ⟨rfl, rfl⟩
    · rw [hlater.path]
      exact hw1.members j b hb i hi
    · rw [hc, Option.some.injEq] at hb
      rw [hlater.path, ← hb]
      exact ⟨_, hk, rfl⟩
  · rcases Pool.get?_set_eq_some.mp hb' with ⟨rfl, rfl⟩ | ⟨-, hb⟩
    · have hlonger := (hw.once j c hc).concat (hw.not_mem_of_loose hc hp hlink)
      rwa [List.concat_eq_append] at hlonger
    · exact hw.once j b' hb
  · obtain ⟨b, hb⟩ := hw.ownedContainers m o ho j hj
    obtain ⟨b', hb', -⟩ := hkeep j b hb
    exact ⟨b', hb'⟩
  · obtain ⟨b, hb, hlater, hlist, -⟩ := hback j b' hb'
    refine .inr ⟨b, hb, hlater, hlist.imp_right ?_⟩
    rintro rfl
    exact hs

end Later

end EpubAccess.Host
