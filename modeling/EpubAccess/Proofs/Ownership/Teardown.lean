/-
  EpubAccess.Proofs.Ownership.Teardown
  ────────────────────────────────
  Packages and containers that are closed.

  A package that is closed gives its handle back once, and the engine warns
  if its container stands (`closePackage_closed`).  A container that stands
  is torn down in one go: its own handle goes first and then the handles of
  its open packages in order (`closeContainer_torn`).  Closing again gives
  nothing back (`closePackage_again`, `closeContainer_again`).
-/
import EpubAccess.Proofs.Ownership.Slots

namespace EpubAccess.Host

open Stateful

variable {calm : Prop} {T : String → Prop} {w : Host}

/-! ## §1. A package closed. -/

/-- The container of the package, while it stands. -/
theorem Sound.isAttached_iff {d : Debts} {k : PackageId} {p : Package} (hw : Sound calm w d)
    (hp : w.packages.get? k = some p) {id : ContainerId} {c : Container}
    (hc : w.containers.get? id = some c) (hk : k ∈ c.packages) :
    w.isAttached p = !c.handle.released := by
  obtain ⟨q, hq, hlink⟩ := (hw.members id c hc).2 k hk
  rw [hp, Option.some.injEq] at hq
  unfold isAttached
  rw [hq, hlink]
  dsimp only
  rw [hc]
  rfl

/-- The engine after an open package was given back, and the warning that it
gives if the container stands. -/
theorem Sound.giveBack_warnings {d : Debts} {k : PackageId} {p : Package} (hw : Sound calm w d)
    (hp : w.packages.get? k = some p) (hr : p.handle.released = false) :
    (p.handle.giveBack w.gateway).2.engine.registryWarnings
      = w.gateway.engine.registryWarnings + if w.isAttached p then 1 else 0 := by
  obtain ⟨-, hopen⟩ := hw.linked k p hp
  obtain ⟨id, c, hc, hk, ⟨a, i, hl⟩, -⟩ := hopen hr
  have hp' := held_package hp
  have hc' := held_container hc
  have hne : c.handle.handle ≠ p.handle.handle := fun he =>
    absurd (hw.ledger.apart _ _ _ _ hc' hp' he) (by simp)
  -- the handle of a container is live exactly while it is not given back
  have hlive : c.handle.handle ∈ w.gateway.engine.live ↔ c.handle.released = false := by
    rw [Std.ExtTreeMap.mem_iff_isSome_getElem?]
    constructor
    · intro hs
      by_contra hrel
      rw [hw.ledger.not_live (.inl ⟨_, hc'⟩) (by simpa using hrel)] at hs
      exact absurd hs (by simp)
    · intro hrel
      obtain ⟨o, ho, -⟩ := hw.ledger.object (.inl ⟨_, hc'⟩) hrel
      rw [ho]
      rfl
  rw [p.handle.giveBack_engine,
    Engine.takeBack_package_warnings (e := w.gateway.engine.record p.handle.returnCall) hl hne,
    hw.isAttached_iff hp hc hk]
  show w.gateway.engine.registryWarnings
    + (if c.handle.handle ∈ w.gateway.engine.live then 1 else 0)
    = _
  cases hrel : c.handle.released <;> simp [hlive, hrel]

theorem release_of_open {x : OwnedHandle} (hr : x.released = false) (g : Gateway) :
    x.release g = ((true, { x with released := true }), (x.giveBack g).2) := by
  unfold OwnedHandle.release
  rw [hr]
  rfl

theorem release_of_released {x : OwnedHandle} (hr : x.released = true) (g : Gateway) :
    x.release g
      = ((false, x), { g with events := g.events.push (.releasedTwice x.kind x.handle) }) := by
  unfold OwnedHandle.release
  rw [hr]
  rfl

/-- What the engine looks like after a live handle was given back. -/
theorem giveBack_live {x : OwnedHandle} {g : Gateway} {o : LiveObject}
    (ho : g.engine.live[x.handle]? = some o) :
    (∀ h : Handle, h ≠ x.handle →
        (x.giveBack g).2.engine.live[h]? = g.engine.live[h]?)
      ∧ (x.giveBack g).2.engine.log = g.engine.log ++ [x.returnCall]
      ∧ (o.kind ≠ .package →
          (x.giveBack g).2.engine.registryWarnings = g.engine.registryWarnings) := by
  obtain ⟨hlive, -, hcalls, -, -, -, hwarn⟩ :=
    Engine.takeBack_live (e := g.engine.record x.returnCall) (h := x.handle) ho
  rw [x.giveBack_engine]
  refine ⟨fun h hne => ?_, ?_, hwarn⟩
  · rw [hlive, Std.ExtTreeMap.getElem?_erase]
    simp [Ne.symm hne, Engine.record]
  · rw [← g.engine.log_record]
    simp only [Engine.log, hcalls]

/-- The handle at a place was given back and is noted there as released; what
is held at other places is as it was. -/
structure Returned (pl : Place) (x : OwnedHandle) (w w' : Host) : Prop where
  before : w.held pl = some x
  isOpen : x.released = false
  engine : w'.gateway.engine = (x.giveBack w.gateway).2.engine
  faults : w'.gateway.faults = w.gateway.faults
  after : w'.held pl = some { x with released := true }
  others : ∀ pl', pl' ≠ pl → w'.held pl' = w.held pl'

namespace Returned

variable {w' : Host} {d : Debts} {pl : Place} {x : OwnedHandle}

theorem ledger (h : Returned pl x w w') (hw : Sound calm w d) :
    Ledger w'.gateway.engine w'.held d.handles := by
  rw [h.engine, x.giveBack_engine]
  exact hw.ledger.spend h.before h.isOpen (by simp) (by simp) h.after h.others

theorem kinds (h : Returned pl x w w') (hw : Sound calm w d) :
    ∀ pl' y, w'.held pl' = some y → y.kind = pl'.kind := by
  refine hw.kinds_of_others pl (fun y hy => ?_) h.others
  rw [h.after, Option.some.injEq] at hy
  rw [← hy]
  exact hw.kinds pl x h.before

/-- A handle at another place is another one. -/
theorem apart (h : Returned pl x w w') (hw : Sound calm w d) {pl' : Place} {y : OwnedHandle}
    (hpl : pl' ≠ pl) (hy : w.held pl' = some y) : y.handle ≠ x.handle :=
  fun he => hpl (hw.ledger.apart _ _ _ _ hy h.before he)

/-- What is held at another place is left alone. -/
theorem live (h : Returned pl x w w') (hw : Sound calm w d) {pl' : Place} {y : OwnedHandle}
    (hpl : pl' ≠ pl) (hy : w.held pl' = some y) :
    w'.gateway.engine.live[y.handle]? = w.gateway.engine.live[y.handle]? := by
  obtain ⟨o, ho, -⟩ := hw.ledger.object (.inl ⟨_, h.before⟩) h.isOpen
  rw [h.engine]
  exact (giveBack_live ho).1 _ (h.apart hw hpl hy)

theorem fetches (h : Returned pl x w w') (hw : Sound calm w d) (hpl : ∀ m, .slot m ≠ pl)
    (m : String)
    (f : Fetch) (hf : w.slots[m]? = some (.fetch f)) : f.Ready calm w'.gateway.engine :=
  hw.fetches_of_live (fun m _ hy => h.live hw (hpl m) hy) m f hf

theorem calm_faults (h : Returned pl x w w') (hw : Sound calm w d) (hc : calm) :
    w'.gateway.faults = .none :=
  h.faults.trans (hw.calm hc)

/-- The one call gives the handle back and no other. -/
theorem log (h : Returned pl x w w') (hw : Sound calm w d) (hpl : pl.kind ≠ .stream) :
    w'.log = w.log ++ [.releaseHandle x.handle] := by
  have hkind := hw.kinds pl x h.before
  have hcall : x.returnCall = .releaseHandle x.handle := by
    unfold OwnedHandle.returnCall
    rw [hkind]
    cases pl with
    | slot m => exact absurd rfl hpl
    | _ => rfl
  obtain ⟨o, ho, -⟩ := hw.ledger.object (.inl ⟨_, h.before⟩) h.isOpen
  show w'.gateway.engine.log = _
  rw [h.engine, (giveBack_live ho).2.1, hcall]
  rfl

theorem spares (h : Returned pl x w w') (hw : Sound calm w d) {pl' : Place} {y : OwnedHandle}
    (hpl : pl' ≠ pl) (hy : w.held pl' = some y) :
    Host.spares [.releaseHandle x.handle] y.handle = true := by
  simp [Host.spares, h.apart hw hpl hy]

end Returned

/-- A package as it is noted once it was closed. -/
def closedPackage (p : Package) : Package :=
  { p with handle := { p.handle with released := true }, navigationCache := fun _ => none }

/-- The host after an open package was closed. -/
def packageClosed (k : PackageId) (p : Package) (w : Host) : Host :=
  { w with
    gateway := { (p.handle.giveBack w.gateway).2 with
      events := (p.handle.giveBack w.gateway).2.events.push (.packageClosed p.handle.handle) }
    packages := w.packages.set k (closedPackage p) }

theorem closePackage_open {k : PackageId} {p : Package} (hp : w.packages.get? k = some p)
    (hr : p.handle.released = false) : closePackage k w = (true, packageClosed k p w) := by
  unfold closePackage
  simp only [bind_apply, get_apply, hp, through, Package.close, release_of_open hr]
  rfl

theorem packageClosed_returned {k : PackageId} {p : Package} (hp : w.packages.get? k = some p)
    (hr : p.handle.released = false) :
    Returned (.package k) p.handle w (packageClosed k p w) := by
  have hself : (packageClosed k p w).packages.get? k = some (closedPackage p) :=
    Pool.get?_set_self ..
  refine ⟨held_package hp, hr, rfl, p.handle.giveBack_faults _, held_package hself,
    fun pl hpl => ?_⟩
  refine held_congr (fun _ _ => rfl) (fun j hj => Pool.get?_set_ne fun h => hpl ?_) fun _ _ => rfl
  rw [hj, h]

/-- A closed package leaves a sound host, in which no other package that was
not to be closed lacks its container. -/
theorem packageClosed_sound {d : Debts} {k : PackageId} {p : Package} (hw : Sound calm w d)
    (hp : w.packages.get? k = some p) (hr : p.handle.released = false) (cl : List PackageId)
    (hcl : ∀ j ∈ d.closing, j = k ∨ j ∈ cl) :
    Sound calm (packageClosed k p w) { d with closing := cl } := by
  have hback := packageClosed_returned hp hr
  obtain ⟨hids, hmembers, howned⟩ :=
    hw.packages_set hp (show (closedPackage p).link = p.link from rfl)
  have hledger := hback.ledger hw
  refine ⟨hledger, hback.kinds hw, hw.slots, hw.containerIds, hids, hmembers, ?_,
    hw.containersOwned, howned, hback.fetches hw (by simp), hback.calm_faults hw⟩
  -- the books on other packages hold as before; this one is not open any more
  intro j q hq
  rcases Pool.get?_set_eq_some.mp hq with ⟨rfl, rfl⟩ | ⟨hj, hq⟩
  · exact ⟨(hw.linked j p hp).1, fun h => absurd (show true = false from h) (by simp)⟩
  · obtain ⟨hlink, hopen⟩ := hw.linked j q hq
    refine ⟨hlink, fun hr' => ?_⟩
    obtain ⟨id, c, hc, hmem, ⟨a, i, hl⟩, hclosing⟩ := hopen hr'
    have hlive := hback.live hw (by simpa using hj) (held_package hq)
    exact ⟨id, c, hc, hmem, ⟨a, i, hlive.trans hl⟩,
      fun hrel => (hcl j (hclosing hrel)).resolve_left hj⟩

/-- Closing a package takes it from the open ones of its container and leaves
every container as it stands. -/
theorem packageClosed_evolves {d : Debts} {k : PackageId} {p : Package} (hw : Sound calm w d)
    (hp : w.packages.get? k = some p) (hr : p.handle.released = false) :
    Evolves T (if w.isAttached p then 1 else 0) w (packageClosed k p w)
      [.releaseHandle p.handle.handle] := by
  have hback := packageClosed_returned hp hr
  refine ⟨hback.log hw (by simp [Place.kind]), fun id c hst => .inl ⟨hst, ?_, fun j _ => ?_⟩,
    fun id c h => .inr h, Nat.le_refl _, fun _ _ => rfl,
    fun m _ x hx => hback.live hw (by simp) hx, hw.giveBack_warnings hp hr⟩
  · exact hback.spares hw (by simp) (held_container (standing?_eq_some.mp hst).1)
  · show ((packageClosed k p w).packages.get? j).bind _ = _
    -- of the list of any container this package alone goes
    by_cases hj : j = k
    · rw [hj, show (packageClosed k p w).packages.get? k = _ from Pool.get?_set_self ..,
        packageHandle?, hp]
      simp [OwnedHandle.get?, hr, Option.filter, Host.spares, closedPackage]
    · rw [show (packageClosed k p w).packages.get? j = _ from Pool.get?_set_ne hj]
      exact packageHandle?_spared fun x hx => hback.spares hw (by simpa using hj) hx

/-- The host after one of its packages was closed, all others as before. -/
structure Closed (calm : Prop) (T : String → Prop) (k : PackageId) (n : Nat) (w w' : Host)
    (new : List Call) (d : Debts) : Prop where
  sound : Sound calm w' d
  evolves : Evolves T n w w' new
  containers : w'.containers = w.containers
  others : ∀ j, j ≠ k → w'.packages.get? j = w.packages.get? j

/-- An open package closed. -/
theorem closePackage_closed {d : Debts} {k : PackageId} {p : Package} (hw : Sound calm w d)
    (hp : w.packages.get? k = some p) (hr : p.handle.released = false) (cl : List PackageId)
    (hcl : ∀ j ∈ d.closing, j = k ∨ j ∈ cl) :
    Closed calm T k (if w.isAttached p then 1 else 0) w (closePackage k w).2
        [.releaseHandle p.handle.handle] { d with closing := cl }
      ∧ (closePackage k w).1 = true := by
  rw [closePackage_open hp hr]
  exact ⟨⟨packageClosed_sound hw hp hr cl hcl, packageClosed_evolves hw hp hr, rfl,
    fun _ hj => Pool.get?_set_ne hj⟩, rfl⟩

/-- Closing a package that is closed is noted, and that is all. -/
theorem closePackage_of_released {k : PackageId} {p : Package} (hp : w.packages.get? k = some p)
    (hr : p.handle.released = true) :
    closePackage k w = (false, { w with gateway := { w.gateway with
      events := w.gateway.events.push (.releasedTwice p.handle.kind p.handle.handle) } }) := by
  unfold closePackage
  simp only [bind_apply, get_apply, hp, through, Package.close, release_of_released hr]
  -- the package is replaced by itself
  show (false, { w with
    gateway := { w.gateway with events := _ }, packages := w.packages.set k p }) = _
  rw [Pool.set_self hp]

/-- Closing a package that is closed gives nothing back. -/
theorem closePackage_again {d : Debts} {k : PackageId} {p : Package} (hw : Sound calm w d)
    (hp : w.packages.get? k = some p) (hr : p.handle.released = true) :
    Reaches calm T 0 w (closePackage k w).2 d ∧ (closePackage k w).1 = false := by
  rw [closePackage_of_released hp hr]
  exact ⟨.same hw rfl rfl rfl rfl rfl, rfl⟩

/-! ## §2. A container torn down. -/

/-- A package of a closed container closed, unless it is. -/
theorem closePackageIfOpen_closed {hs : List OwnedHandle} {cs : List ContainerId}
    {ps ks : List PackageId} {k : PackageId} (hw : Sound calm w ⟨hs, cs, ps, k :: ks⟩)
    (hk : ∀ p, w.packages.get? k = some p → w.isAttached p = false) :
    Closed calm T k 0 w (closePackageIfOpen k w).2
      ((w.packageHandle? k).toList.map .releaseHandle) ⟨hs, cs, ps, ks⟩ := by
  -- a package that is not open owes nothing
  have hdone : w.packageHandle? k = none → Sound calm w ⟨hs, cs, ps, ks⟩ := by
    intro hnone
    refine ⟨hw.ledger, hw.kinds, hw.slots, hw.containerIds, hw.packageIds, hw.members, ?_,
      hw.containersOwned, hw.packagesOwned, hw.fetches, hw.calm⟩
    intro j q hq
    obtain ⟨hlink, hopen⟩ := hw.linked j q hq
    refine ⟨hlink, fun hr => ?_⟩
    obtain ⟨id, c, hc, hmem, hl, hclosing⟩ := hopen hr
    refine ⟨id, c, hc, hmem, hl, fun hrel => (List.mem_cons.mp (hclosing hrel)).resolve_left ?_⟩
    rintro rfl
    rw [packageHandle?_eq_some.mpr ⟨q, hq, hr, rfl⟩] at hnone
    exact absurd hnone (by simp)
  have hskip : w.packageHandle? k = none → Closed calm T k 0 w w
      ((w.packageHandle? k).toList.map .releaseHandle) ⟨hs, cs, ps, ks⟩ := by
    intro hnone
    rw [hnone]
    exact ⟨hdone hnone, .refl T w, rfl, fun _ _ => rfl⟩
  unfold closePackageIfOpen
  rw [get_bind_apply]
  cases hp : w.packages.get? k with
  | none => exact hskip (by simp [packageHandle?, hp])
  | some p =>
    dsimp only
    cases hr : p.handle.released with
    | true =>
      rw [show p.isClosed = true from hr]
      exact hskip (by simp [packageHandle?, hp, OwnedHandle.get?, hr])
    | false =>
      rw [show p.isClosed = false from hr, packageHandle?_eq_some.mpr ⟨p, hp, hr, rfl⟩]
      have hclosed := (closePackage_closed (T := T) hw hp hr ks
        fun j hj => List.mem_cons.mp hj).1
      rw [hk p hp] at hclosed
      exact hclosed

/-- The packages of a closed container closed, one after the other: their
handles go in the order of the list. -/
theorem closePackages_reaches {hs : List OwnedHandle} {cs : List ContainerId}
    {ps : List PackageId} (ks : List PackageId) (hn : ks.Nodup)
    (hw : Sound calm w ⟨hs, cs, ps, ks⟩)
    (hk : ∀ k ∈ ks, ∀ p, w.packages.get? k = some p → w.isAttached p = false) :
    Sound calm (ks.forM closePackageIfOpen w).2 ⟨hs, cs, ps, []⟩
      ∧ Evolves T 0 w (ks.forM closePackageIfOpen w).2
          ((ks.filterMap w.packageHandle?).map .releaseHandle)
      ∧ (ks.forM closePackageIfOpen w).2.containers = w.containers := by
  -- the induction is on the packages that are left; those further down the list are
  -- as open as at the start, since closing one touches no other
  induction ks generalizing w with
  | nil => exact ⟨hw, .refl T w, rfl⟩
  | cons k ks ih =>
    obtain ⟨hnk, hn⟩ := List.nodup_cons.mp hn
    have hone := closePackageIfOpen_closed (T := T) hw (hk k (List.mem_cons_self ..))
    have hsame : ∀ j ∈ ks, (closePackageIfOpen k w).2.packages.get? j = w.packages.get? j :=
      fun j hj => hone.others j fun h => hnk (h ▸ hj)
    obtain ⟨hsound, hevolves, hcontainers⟩ := ih hn hone.sound fun j hj p hp => by
      rw [hsame j hj] at hp
      unfold isAttached
      rw [hone.containers]
      exact hk j (List.mem_cons_of_mem _ hj) p hp
    refine ⟨hsound, ?_, hcontainers.trans hone.containers⟩
    have hcalls : ((k :: ks).filterMap w.packageHandle?).map Call.releaseHandle
        = (w.packageHandle? k).toList.map .releaseHandle
          ++ (ks.filterMap (closePackageIfOpen k w).2.packageHandle?).map .releaseHandle := by
      have hrest : ks.filterMap (closePackageIfOpen k w).2.packageHandle?
          = ks.filterMap w.packageHandle? := by
        refine List.filterMap_congr fun j hj => ?_
        unfold packageHandle?
        rw [hsame j hj]
      rw [hrest, List.filterMap_cons]
      cases w.packageHandle? k <;> rfl
    rw [hcalls]
    exact hone.evolves.trans hevolves

/-- A container as it is noted once its handle was given back. -/
def releasedContainer (c : Container) : Container :=
  { c with handle := { c.handle with released := true } }

/-- The host after the handle of a container was given back; its packages are
to be closed next. -/
def containerReleased (id : ContainerId) (c : Container) (w : Host) : Host :=
  { w with
    gateway := (c.handle.giveBack w.gateway).2
    containers := w.containers.set id (releasedContainer c) }

theorem containerReleased_self (id : ContainerId) (c : Container) (w : Host) :
    (containerReleased id c w).containers.get? id = some (releasedContainer c) :=
  Pool.get?_set_self ..

theorem containerReleased_ne {id j : ContainerId} {c : Container} (hj : j ≠ id) :
    (containerReleased id c w).containers.get? j = w.containers.get? j :=
  Pool.get?_set_ne hj

theorem containerReleased_returned {id : ContainerId} {c : Container}
    (hc : w.containers.get? id = some c) (hr : c.handle.released = false) :
    Returned (.container id) c.handle w (containerReleased id c w) := by
  refine ⟨held_container hc, hr, rfl, c.handle.giveBack_faults _,
    held_container (containerReleased_self ..), fun pl hpl => ?_⟩
  refine held_congr (fun j hj => containerReleased_ne fun h => hpl ?_) (fun _ _ => rfl)
    fun _ _ => rfl
  rw [hj, h]

/-- A container that is there keeps its list and its handle; only `id` may be
released since. -/
theorem containerReleased_kept {id : ContainerId} {c : Container}
    (hc : w.containers.get? id = some c)
    {j : ContainerId} {b : Container} (hb : w.containers.get? j = some b) :
    ∃ b', (containerReleased id c w).containers.get? j = some b' ∧ b'.packages = b.packages
      ∧ b'.handle.handle = b.handle.handle
      ∧ (b'.handle.released = true → b.handle.released = true ∨ j = id) := by
  by_cases hj : j = id
  · subst hj
    rw [hc, Option.some.injEq] at hb
    subst hb
    exact ⟨_, containerReleased_self .., rfl, rfl, fun _ => .inr rfl⟩
  · exact ⟨b, (containerReleased_ne hj).trans hb, rfl, rfl, .inl⟩

/-- A container that is there was there before with the same list. -/
theorem containerReleased_back {id : ContainerId} {c : Container}
    (hc : w.containers.get? id = some c)
    {j : ContainerId} {b : Container} (hb : (containerReleased id c w).containers.get? j = some b) :
    ∃ b', w.containers.get? j = some b' ∧ b'.packages = b.packages ∧ b'.path = b.path := by
  rcases Pool.get?_set_eq_some.mp hb with ⟨rfl, rfl⟩ | ⟨-, hb⟩
  · exact ⟨c, hc, rfl, rfl⟩
  · exact ⟨b, hb, rfl, rfl⟩

/-- With its handle given back a container owes the closing of its packages. -/
theorem containerReleased_sound {hs : List OwnedHandle} {cs : List ContainerId}
    {ps : List PackageId} {id : ContainerId} {c : Container} (hw : Sound calm w ⟨hs, cs, ps, []⟩)
    (hc : w.containers.get? id = some c) (hr : c.handle.released = false) :
    Sound calm (containerReleased id c w) ⟨hs, cs, ps, c.packages⟩ := by
  have hback := containerReleased_returned hc hr
  have hledger := hback.ledger hw
  refine ⟨hledger, hback.kinds hw, hw.slots, ?_, hw.packageIds, ?_, ?_, ?_, ?_,
    hback.fetches hw (by simp), hback.calm_faults hw⟩
  · intro j b hb
    obtain ⟨b', hb', -⟩ := containerReleased_back hc hb
    exact hw.containerIds j b' hb'
  · intro j b hb
    obtain ⟨b', hb', hlist, hpath⟩ := containerReleased_back hc hb
    rw [← hlist, ← hpath]
    exact hw.members j b' hb'
  · intro k p hp
    obtain ⟨hlink, hopen⟩ := hw.linked k p hp
    refine ⟨hlink, fun hpr => ?_⟩
    -- an open package is still listed; if its container was this one it is to be closed
    obtain ⟨j, b, hb, hmem, ⟨a, i, hl⟩, hclosing⟩ := hopen hpr
    obtain ⟨b', hb', hlist, hhandle, hrel⟩ := containerReleased_kept hc hb
    refine ⟨j, b', hb', hlist ▸ hmem, ⟨a, i, ?_⟩, fun hbr => ?_⟩
    · rw [hhandle]
      exact (hback.live hw (by simp) (held_package hp)).trans hl
    · rcases hrel hbr with h | rfl
      · exact absurd (hclosing h) (by simp)
      · rw [hc, Option.some.injEq] at hb
        exact hb ▸ hmem
  · intro j b hb
    obtain ⟨b', hb', -⟩ := containerReleased_back hc hb
    exact hw.containersOwned j b' hb'
  · intro k p hp
    rcases hw.packagesOwned k p hp with hown | hdebt
    · refine .inl (packageOwned_mono (w := w) (fun _ _ h => h) (fun j b hb hmem => ?_) hown)
      obtain ⟨b', hb', hlist, -⟩ := containerReleased_kept hc hb
      exact ⟨b', hb', hlist ▸ hmem⟩
    · exact .inr hdebt

/-- The other containers that stand notice nothing. -/
theorem containerReleased_stays {d : Debts} {id : ContainerId} {c : Container} (hw : Sound calm w d)
    (hc : w.containers.get? id = some c) (hr : c.handle.released = false) {j : ContainerId}
    {b : Container} (hj : j ≠ id) (hb : w.standing? j = some b) :
    Stays j b w (containerReleased id c w) [.releaseHandle c.handle.handle] := by
  have hback := containerReleased_returned hc hr
  obtain ⟨hget, hopen⟩ := standing?_eq_some.mp hb
  refine ⟨standing?_eq_some.mpr ⟨(containerReleased_ne hj).trans hget, hopen⟩,
    hback.spares hw (by simpa using hj) (held_container hget), fun k _ => ?_⟩
  show w.packageHandle? k = _
  exact packageHandle?_spared fun x hx => hback.spares hw (by simp) hx

theorem containerReleased_warnings {d : Debts} {id : ContainerId} {c : Container}
    (hw : Sound calm w d) (hc : w.containers.get? id = some c) (hr : c.handle.released = false) :
    (containerReleased id c w).gateway.engine.registryWarnings
      = w.gateway.engine.registryWarnings := by
  obtain ⟨o, ho, hkind⟩ := hw.ledger.object (.inl ⟨_, held_container hc⟩) hr
  refine (giveBack_live ho).2.2 ?_
  rw [hkind, hw.kinds _ _ (held_container hc)]
  simp [Place.kind]

/-- The calls of a teardown: the handle of the container, then those of its
open packages. -/
theorem teardown_nil (w : Host) (c : Container) :
    w.teardown c [] = [.releaseHandle c.handle.handle]
      ++ (c.packages.filterMap w.packageHandle?).map .releaseHandle := by
  have hall : (w.openHandles c).filter (spares []) = w.openHandles c :=
    List.filter_eq_self.mpr fun _ _ => rfl
  unfold teardown
  rw [hall]
  rfl

/-- A container whose handle was given back and whose packages were closed
after it was torn down in one go. -/
theorem Evolves.teardown {d : Debts} {id : ContainerId} {c : Container} {w' : Host}
    (hw : Sound calm w d) (hst : w.standing? id = some c)
    (hev : Evolves T 0 (containerReleased id c w) w'
      ((c.packages.filterMap w.packageHandle?).map .releaseHandle))
    (hcont : w'.containers = (containerReleased id c w).containers) :
    Evolves T 0 w w' (w.teardown c []) := by
  obtain ⟨hc, hr⟩ := standing?_eq_some.mp hst
  have hback := containerReleased_returned hc hr
  have hgone : w'.standing? id = none := by
    unfold standing?
    rw [hcont, containerReleased_self]
    rfl
  have hnext : w'.containers.next = w.containers.next := by
    rw [hcont]
    rfl
  have hlog : w'.log = w.log ++ w.teardown c [] := by
    rw [hev.log, hback.log hw (by simp [Place.kind]), List.append_assoc, teardown_nil]
  refine ⟨hlog, fun j b hb => ?_, fun j b hb => ?_, Nat.le_of_eq hnext.symm, hev.slots,
    fun m hm x hx => ?_, ?_⟩
  -- this container met its fate, the others go through the closings
  · by_cases hj : j = id
    · subst hj
      rw [hst, Option.some.injEq] at hb
      subst hb
      exact .inr ⟨hgone, hnext ▸ hw.standing_next hst, [], [], by simp, rfl⟩
    · have hs := containerReleased_stays hw hc hr hj hb
      rw [teardown_nil]
      exact hs.fate (hev.fate j b hs.standing)
  · have hj : j ≠ id := by
      rintro rfl
      rw [hgone] at hb
      exact absurd hb (by simp)
    refine (hev.standing j b hb).imp_right fun h => ?_
    unfold standing? at h
    rw [containerReleased_ne hj] at h
    exact h
  · exact (hev.live m hm x hx).trans (hback.live hw (by simp) hx)
  · rw [hev.warnings, containerReleased_warnings hw hc hr]

/-- Closing a container that is open gives its handle back first, and then closes
its packages in order. -/
theorem closeContainer_of_open {id : ContainerId} {c : Container}
    (hc : w.containers.get? id = some c) (hr : c.handle.released = false) :
    closeContainer id w = (true, (through (Gateway.emit (.containerClosed c.path c.handle.handle))
      (c.packages.forM closePackageIfOpen (containerReleased id c w)).2).2) := by
  unfold closeContainer
  simp only [bind_apply, get_apply, hc, through, release_of_open hr, modify_apply]
  rfl

/-- **A container that stands is torn down in one go**: its own handle goes
first, then those of its open packages in the order of its list. -/
theorem closeContainer_torn {hs : List OwnedHandle} {cs : List ContainerId} {ps : List PackageId}
    {id : ContainerId} {c : Container} (hw : Sound calm w ⟨hs, cs, ps, []⟩)
    (hst : w.standing? id = some c) :
    Sound calm (closeContainer id w).2 ⟨hs, cs, ps, []⟩
      ∧ Evolves T 0 w (closeContainer id w).2 (w.teardown c [])
      ∧ (closeContainer id w).2.containers.get? id
          = some { c with handle := { c.handle with released := true } }
      ∧ (closeContainer id w).1 = true := by
  obtain ⟨hc, hr⟩ := standing?_eq_some.mp hst
  have hreleased := containerReleased_sound hw hc hr
  obtain ⟨hsound, hev, hcont⟩ := closePackages_reaches (T := T) c.packages
    (hw.members id c hc).1 hreleased fun k hk p hp => by
      rw [hreleased.isAttached_iff hp (containerReleased_self id c w) hk]
      rfl
  have htorn := Evolves.teardown hw hst hev hcont
  rw [closeContainer_of_open hc hr]
  generalize (c.packages.forM closePackageIfOpen (containerReleased id c w)).2 = w2
    at hsound hcont htorn ⊢
  have hnoted : Reaches calm T 0 w2 (through (Gateway.emit
      (.containerClosed c.path c.handle.handle)) w2).2 ⟨hs, cs, ps, []⟩ :=
    .same hsound rfl rfl rfl rfl rfl
  have hquiet : Evolves T 0 w2 (through (Gateway.emit
      (.containerClosed c.path c.handle.handle)) w2).2 [] :=
    .of_same rfl rfl (fun _ => rfl) (fun _ _ => rfl) rfl rfl
  have hfull := htorn.trans hquiet
  rw [List.append_nil] at hfull
  refine ⟨hnoted.sound, hfull, ?_, rfl⟩
  show w2.containers.get? id = _
  rw [hcont]
  exact containerReleased_self ..

/-- Closing a container that is closed is noted, and that is all. -/
theorem closeContainer_of_released {id : ContainerId} {c : Container}
    (hc : w.containers.get? id = some c) (hr : c.handle.released = true) :
    closeContainer id w = (false, { w with gateway := { w.gateway with
      events := w.gateway.events.push (.releasedTwice c.handle.kind c.handle.handle) } }) := by
  unfold closeContainer
  simp only [bind_apply, get_apply, hc, through, release_of_released hr, modify_apply]
  -- the container is replaced by itself
  show (false, { w with
    gateway := { w.gateway with events := _ }, containers := w.containers.set id c }) = _
  rw [Pool.set_self hc]

/-- Closing a container that is closed gives nothing back. -/
theorem closeContainer_again {d : Debts} {id : ContainerId} {c : Container} (hw : Sound calm w d)
    (hc : w.containers.get? id = some c) (hr : c.handle.released = true) :
    Reaches calm T 0 w (closeContainer id w).2 d ∧ (closeContainer id w).1 = false
      ∧ (closeContainer id w).2.gateway.engine = w.gateway.engine := by
  rw [closeContainer_of_released hc hr]
  exact ⟨.same hw rfl rfl rfl rfl rfl, rfl, rfl⟩

end EpubAccess.Host
