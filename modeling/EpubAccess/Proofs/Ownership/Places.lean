/-
  EpubAccess.Proofs.Ownership.Places
  ────────────────────────────────
  Who holds what in a host, and what a host may become.

  A handle is held at a `Place`: by a container, by a package, or by the
  stream or fetch in a slot.  `Host.Sound` says that a host and its engine
  agree: the ledger balances over the places, every open package is listed by
  a container that stands, and every object has an owner.  Work in progress
  may leave `Debts`: handles in hand, objects that may lack an owner, and
  packages whose container was closed just before them.

  `Host.Evolves` says what becomes of the containers that stand: each still
  stands, or it was torn down in one go, its own handle first and then those
  of its open packages in order (`Host.TornDown`).  Both are joined in
  `Host.Reaches`, which is closed under sequencing (`Reaches.trans`).
-/
import EpubAccess.Host.Step
import EpubAccess.Proofs.Ownership.Fetches

namespace EpubAccess

open Stateful

/-! ## §1. Places. -/

/-- A place where a handle may be held. -/
inductive Place where
  | container (id : ContainerId)
  | package (id : PackageId)
  | slot (name : String)
  deriving DecidableEq

/-- The kind of the handles at a place. -/
def Place.kind : Place → HandleKind
  | container _ => .container
  | package _ => .package
  | slot _ => .stream

namespace Holding

/-- The handle that what is in a slot holds itself. -/
def handle? : Holding → Option OwnedHandle
  | owned o => some o
  | stream s => some s.handle
  | fetch f => f.stream.map ContentStream.handle
  | _ => none

/-- The handle that what is in a slot holds itself, as a list. -/
def handles (o : Holding) : List OwnedHandle := o.handle?.toList

/-- The containers that what is in a slot owns. -/
def containers : Holding → List ContainerId
  | container id => [id]
  | library l => l.containerIds
  | _ => []

/-- The packages that what is in a slot owns. -/
def packages : Holding → List PackageId
  | package id => [id]
  | fetch f => [f.package]
  | library l => l.packageIds
  | _ => []

@[simp] theorem handles_fetch (f : Fetch) : (fetch f).handles = f.handles := by
  cases h : f.stream <;> simp [handles, handle?, Fetch.handles, h]

theorem mem_containers (o : Holding) (id : ContainerId) :
    id ∈ o.containers ↔ o.ownsContainer id = true := by
  cases o with
  | container c =>
    show id ∈ [c] ↔ (c == id) = true
    rw [List.mem_singleton, beq_iff_eq, eq_comm]
  | library l =>
    show id ∈ l.containers.values ↔ l.containers.any (fun _ d => d == id) = true
    rw [OrderedMap.mem_values, OrderedMap.any_iff]
    simp
  | _ => simp [containers, ownsContainer]

theorem mem_packages (o : Holding) (id : PackageId) :
    id ∈ o.packages ↔ o.ownsPackage id = true := by
  cases o with
  | package p =>
    show id ∈ [p] ↔ (p == id) = true
    rw [List.mem_singleton, beq_iff_eq, eq_comm]
  | fetch f =>
    show id ∈ [f.package] ↔ (f.package == id) = true
    rw [List.mem_singleton, beq_iff_eq, eq_comm]
  | library l =>
    show id ∈ l.entries.values.filterMap LibraryEntry.package
      ↔ l.entries.any (fun _ e => e.package == some id) = true
    rw [List.mem_filterMap, OrderedMap.any_iff]
    -- an entry of a library may name no package
    simp only [OrderedMap.mem_values, beq_iff_eq]
    constructor
    · rintro ⟨e, ⟨a, ha⟩, he⟩
      exact ⟨a, e, ha, he⟩
    · rintro ⟨a, e, ha, he⟩
      exact ⟨e, ⟨a, ha⟩, he⟩
  | _ => simp [packages, ownsPackage]

end Holding

/-- A ready fetch stays so while its stream is left alone. -/
theorem Fetch.Ready.mono {calm : Prop} {e e' : Engine} {f : Fetch} (h : f.Ready calm e)
    (hl : ∀ x, (Holding.fetch f).handle? = some x → e'.live[x.handle]? = e.live[x.handle]?) :
    f.Ready calm e' := by
  intro s hs
  obtain ⟨hh, hp, hm, c, hc, hrest⟩ := h s hs
  refine ⟨hh, hp, hm, c, ?_, hrest⟩
  rw [hl s.handle (by simp [Holding.handle?, hs]), hc]

namespace Host

/-- What is held at a place. -/
def held (w : Host) : Place → Option OwnedHandle
  | .container id => (w.containers.get? id).map Container.handle
  | .package id => (w.packages.get? id).map Package.handle
  | .slot n => (w.slots[n]?).bind Holding.handle?

theorem held_container {w : Host} {id : ContainerId} {c : Container}
    (hc : w.containers.get? id = some c) : w.held (.container id) = some c.handle := by
  show (w.containers.get? id).map _ = _
  rw [hc]
  rfl

theorem held_package {w : Host} {k : PackageId} {p : Package} (hp : w.packages.get? k = some p) :
    w.held (.package k) = some p.handle := by
  show (w.packages.get? k).map _ = _
  rw [hp]
  rfl

theorem held_slot {w : Host} {m : String} {o : Holding} (ho : w.slots[m]? = some o) :
    w.held (.slot m) = o.handle? := by
  show (w.slots[m]?).bind _ = _
  rw [ho]
  rfl

/-- What is held at a place depends on what is there alone. -/
theorem held_congr {w w' : Host} {pl : Place}
    (hc : ∀ id, pl = .container id → w'.containers.get? id = w.containers.get? id)
    (hp : ∀ k, pl = .package k → w'.packages.get? k = w.packages.get? k)
    (hs : ∀ m : String, pl = .slot m → w'.slots[m]? = w.slots[m]?) : w'.held pl = w.held pl := by
  cases pl with
  | container id => exact congrArg (Option.map _) (hc id rfl)
  | package k => exact congrArg (Option.map _) (hp k rfl)
  | slot m => exact congrArg (Option.bind · _) (hs m rfl)

theorem containerOwned_iff (w : Host) (id : ContainerId) :
    w.containerOwned id = true
      ↔ ∃ (n : String) (o : Holding), w.slots[n]? = some o ∧ id ∈ o.containers := by
  unfold containerOwned
  rw [OrderedMap.any_iff]
  simp only [Holding.mem_containers]

theorem packageOwned_iff (w : Host) (id : PackageId) :
    w.packageOwned id = true
      ↔ (∃ (n : String) (o : Holding), w.slots[n]? = some o ∧ id ∈ o.packages)
        ∨ ∃ cid c, w.containers.get? cid = some c ∧ id ∈ c.packages := by
  unfold packageOwned
  rw [Bool.or_eq_true, OrderedMap.any_iff, Pool.any_iff]
  simp only [Holding.mem_packages, List.contains_iff_mem]

/-- A package that was owned still is if slots and lists only gain. -/
theorem packageOwned_mono {w w' : Host} {k : PackageId}
    (hs : ∀ (l : String) o, w.slots[l]? = some o → w'.slots[l]? = some o)
    (hc : ∀ id c, w.containers.get? id = some c → k ∈ c.packages →
      ∃ c', w'.containers.get? id = some c' ∧ k ∈ c'.packages)
    (h : w.packageOwned k = true) : w'.packageOwned k = true := by
  refine (w'.packageOwned_iff k).mpr ?_
  rcases (w.packageOwned_iff k).mp h with ⟨l, o, ho, hk⟩ | ⟨id, c, hget, hk⟩
  · exact .inl ⟨l, o, hs l o ho, hk⟩
  · obtain ⟨c', hget', hk'⟩ := hc id c hget hk
    exact .inr ⟨id, c', hget', hk'⟩

/-! ## §2. Sound hosts. -/

/-- What work in progress has still to settle. -/
structure Debts where
  /-- Handles in hand, at no place. -/
  handles : List OwnedHandle
  /-- Containers that may lack an owner. -/
  containers : List ContainerId
  /-- Packages that may lack an owner. -/
  packages : List PackageId
  /-- Packages that may be open although their container was closed. -/
  closing : List PackageId

/-- Nothing to settle. -/
abbrev Debts.none : Debts := ⟨[], [], [], []⟩

/-- The host and its engine agree on every object, up to some debts.  In a
`calm` run no fault waits. -/
structure Sound (calm : Prop) (w : Host) (d : Debts) : Prop where
  ledger : Ledger w.gateway.engine w.held d.handles
  kinds : ∀ pl x, w.held pl = some x → x.kind = pl.kind
  slots : ∀ (n : String) o, w.slots[n]? ≠ some (.owned o)
  containerIds : ∀ id c, w.containers.get? id = some c → id < w.containers.next
  packageIds : ∀ k p, w.packages.get? k = some p → k < w.packages.next
  members : ∀ id c, w.containers.get? id = some c → c.packages.Nodup ∧
    ∀ k ∈ c.packages, ∃ p, w.packages.get? k = some p ∧ p.link = some ⟨id, c.path⟩
  linked : ∀ k p, w.packages.get? k = some p → (∃ link, p.link = some link) ∧
    (p.handle.released = false → ∃ id c, w.containers.get? id = some c ∧ k ∈ c.packages
      ∧ (∃ a i, w.gateway.engine.live[p.handle.handle]? = some (.package c.handle.handle a i))
      ∧ (c.handle.released = true → k ∈ d.closing))
  containersOwned : ∀ id c, w.containers.get? id = some c →
    w.containerOwned id = true ∨ id ∈ d.containers
  packagesOwned : ∀ k p, w.packages.get? k = some p → w.packageOwned k = true ∨ k ∈ d.packages
  fetches : ∀ (n : String) f, w.slots[n]? = some (.fetch f) → f.Ready calm w.gateway.engine
  calm : calm → w.gateway.faults = .none

/-- No fault waits in a calm run, so none makes anything up. -/
theorem Sound.refusing {calm : Prop} {w : Host} {d : Debts} (hw : Sound calm w d) (hcalm : calm) :
    w.gateway.faults.Refusing :=
  .of_none (hw.calm hcalm)

/-- A fresh host is sound. -/
theorem Sound.fresh (calm : Prop) : Sound calm fresh .none := by
  have hheld : ∀ pl, Host.fresh.held pl = none := by
    intro pl
    cases pl <;> simp [held, Host.fresh]
  refine ⟨.empty hheld, ?_, ?_, ?_, ?_, ?_, ?_, ?_, ?_, ?_, fun _ => rfl⟩
  · intro pl x hx
    rw [hheld] at hx
    exact absurd hx (by simp)
  all_goals intro n o ho; simp [Host.fresh] at ho

/-- Handles are of the kind of their place, if one place alone changed and
holds one of its kind. -/
theorem Sound.kinds_of_others {calm : Prop} {w w' : Host} {d : Debts} (hw : Sound calm w d)
    (pl₀ : Place) (hself : ∀ x, w'.held pl₀ = some x → x.kind = pl₀.kind)
    (hother : ∀ pl, pl ≠ pl₀ → w'.held pl = w.held pl) (pl : Place) (x : OwnedHandle)
    (hx : w'.held pl = some x) : x.kind = pl.kind := by
  by_cases hpl : pl = pl₀
  · subst hpl
    exact hself x hx
  · exact hw.kinds pl x ((hother pl hpl).symm.trans hx)

/-- Fetches stay ready while what the slots hold is left alone. -/
theorem Sound.fetches_of_live {calm : Prop} {w : Host} {d : Debts} {e : Engine}
    (hw : Sound calm w d) (hl : ∀ m x, w.held (.slot m) = some x →
      e.live[x.handle]? = w.gateway.engine.live[x.handle]?)
    (m : String) (f : Fetch) (hf : w.slots[m]? = some (.fetch f)) : f.Ready calm e :=
  (hw.fetches m f hf).mono fun x hx => hl m x ((held_slot hf).trans hx)

/-- Debts that are settled, or told again. -/
theorem Sound.settle {calm : Prop} {w : Host} {hs : List OwnedHandle} {cs cs' : List ContainerId}
    {ps ps' cl : List PackageId} (hw : Sound calm w ⟨hs, cs, ps, cl⟩)
    (hc : ∀ id ∈ cs, ∀ c, w.containers.get? id = some c → w.containerOwned id = true ∨ id ∈ cs')
    (hp : ∀ k ∈ ps, ∀ p, w.packages.get? k = some p → w.packageOwned k = true ∨ k ∈ ps') :
    Sound calm w ⟨hs, cs', ps', cl⟩ := by
  refine ⟨hw.ledger, hw.kinds, hw.slots, hw.containerIds, hw.packageIds, hw.members, hw.linked,
    fun id c h => ?_, fun k p h => ?_, hw.fetches, hw.calm⟩
  · rcases hw.containersOwned id c h with hown | hdebt
    · exact .inl hown
    · exact hc id hdebt c h
  · rcases hw.packagesOwned k p h with hown | hdebt
    · exact .inl hown
    · exact hp k hdebt p h

/-! ## §3. What becomes of containers. -/

/-- Every engine call so far. -/
def log (w : Host) : List Call := w.gateway.engine.log

/-- The container that is there and open. -/
def standing? (w : Host) (id : ContainerId) : Option Container :=
  (w.containers.get? id).filter fun c => !c.isClosed

/-- The handle of a package that is there and open. -/
def packageHandle? (w : Host) (k : PackageId) : Option Handle :=
  (w.packages.get? k).bind fun p => p.handle.get?

/-- The handles of the open packages of a container, in the order of its list. -/
def openHandles (w : Host) (c : Container) : List Handle := c.packages.filterMap w.packageHandle?

/-- The handle is not given back by any of these calls. -/
def spares (new : List Call) (h : Handle) : Bool := !new.contains (.releaseHandle h)

theorem spares_append (new new' : List Call) (h : Handle) :
    spares (new ++ new') h = (spares new h && spares new' h) := by
  simp [spares]

/-- The calls that tear a container down: its own handle first, then those of
its packages that the calls before did not give back, in order. -/
def teardown (w : Host) (c : Container) (pre : List Call) : List Call :=
  .releaseHandle c.handle.handle :: ((w.openHandles c).filter (spares pre)).map .releaseHandle

/-- The container still stands, and its packages lost only what was given back. -/
structure Stays (id : ContainerId) (c : Container) (w w' : Host) (new : List Call) : Prop where
  standing : w'.standing? id = some c
  kept : spares new c.handle.handle = true
  packages : ∀ k ∈ c.packages, w'.packageHandle? k = (w.packageHandle? k).filter (spares new)

/-- The container was torn down in one go, and is gone for good. -/
structure TornDown (id : ContainerId) (c : Container) (w w' : Host) (new : List Call) : Prop where
  gone : w'.standing? id = none
  past : id < w'.containers.next
  calls : ∃ pre post, new = pre ++ w.teardown c pre ++ post ∧ spares pre c.handle.handle = true

/-- The host went from `w` to `w'` by the engine calls `new`.  Containers that
stood still stand or were torn down, none came back, and the slots outside
`T` and the streams in them are as they were.  The engine warned `n` times of
a package given back before its container. -/
structure Evolves (T : String → Prop) (n : Nat) (w w' : Host) (new : List Call) : Prop where
  log : w'.log = w.log ++ new
  fate : ∀ id c, w.standing? id = some c → Stays id c w w' new ∨ TornDown id c w w' new
  standing : ∀ id c, w'.standing? id = some c → w.containers.next ≤ id ∨ w.standing? id = some c
  next : w.containers.next ≤ w'.containers.next
  slots : ∀ m : String, ¬ T m → w'.slots[m]? = w.slots[m]?
  live : ∀ m : String, ¬ T m → ∀ x, w.held (.slot m) = some x →
    w'.gateway.engine.live[x.handle]? = w.gateway.engine.live[x.handle]?
  warnings : w'.gateway.engine.registryWarnings = w.gateway.engine.registryWarnings + n

theorem openHandles_of_stays {id : ContainerId} {c : Container} {w w' : Host} {new : List Call}
    (h : Stays id c w w' new) : w'.openHandles c = (w.openHandles c).filter (spares new) := by
  unfold openHandles
  rw [List.filter_filterMap]
  refine List.filterMap_congr fun k hk => ?_
  rw [h.packages k hk]

/-- A package whose handle no call gave back is as open as it was. -/
theorem packageHandle?_spared {w : Host} {new : List Call} {k : PackageId}
    (h : ∀ x, w.held (.package k) = some x → spares new x.handle = true) :
    w.packageHandle? k = (w.packageHandle? k).filter (spares new) := by
  cases hk : w.packageHandle? k with
  | none => rfl
  | some x =>
    obtain ⟨p, hp, hx⟩ := Option.bind_eq_some_iff.mp hk
    rw [← handle_of_get? hx]
    simp [Option.filter, h _ (held_package hp)]

/-- What stays and then meets its fate meets it as a whole. -/
theorem Stays.fate {id : ContainerId} {c : Container} {w w' w'' : Host} {new new' : List Call}
    (h : Stays id c w w' new) (h' : Stays id c w' w'' new' ∨ TornDown id c w' w'' new') :
    Stays id c w w'' (new ++ new') ∨ TornDown id c w w'' (new ++ new') := by
  rcases h' with h' | h'
  · refine .inl ⟨h'.standing, ?_, fun k hk => ?_⟩
    · rw [spares_append, h.kept, h'.kept]
      rfl
    · rw [h'.packages k hk, h.packages k hk]
      cases w.packageHandle? k with
      | none => rfl
      | some x => cases h1 : spares new x <;> cases h2 : spares new' x <;>
          simp [Option.filter, spares_append, h1, h2]
  · obtain ⟨pre, post, hnew, hpre⟩ := h'.calls
    refine .inr ⟨h'.gone, h'.past, new ++ pre, post, ?_, ?_⟩
    -- what the earlier calls gave back is not open any more at the teardown
    · have hteardown : w'.teardown c pre = w.teardown c (new ++ pre) := by
        unfold teardown
        rw [openHandles_of_stays h, List.filter_filter]
        congr 3
        funext x
        rw [spares_append, Bool.and_comm]
      rw [hnew, hteardown]
      simp only [List.append_assoc]
    · rw [spares_append, h.kept, hpre]
      rfl

namespace Evolves

variable {T : String → Prop} {n n' : Nat} {w w' w'' : Host} {new new' : List Call}

/-- A host that differs in nothing that matters. -/
theorem of_same (hl : w'.log = w.log) (hc : w'.containers = w.containers)
    (hp : ∀ k, w'.packageHandle? k = w.packageHandle? k)
    (hs : ∀ m : String, ¬ T m → w'.slots[m]? = w.slots[m]?)
    (hlive : w'.gateway.engine.live = w.gateway.engine.live)
    (hw : w'.gateway.engine.registryWarnings = w.gateway.engine.registryWarnings) :
    Evolves T 0 w w' [] := by
  have hst : ∀ id, w'.standing? id = w.standing? id := by
    intro id
    unfold standing?
    rw [hc]
  refine ⟨by simpa using hl, fun id c h => .inl ⟨(hst id).trans h, rfl, fun k _ => ?_⟩,
    fun id c h => .inr ((hst id).symm.trans h), Nat.le_of_eq (by rw [hc]), hs,
    fun _ _ _ _ => by rw [hlive], hw⟩
  rw [hp]
  exact packageHandle?_spared fun _ _ => rfl

theorem refl (T : String → Prop) (w : Host) : Evolves T 0 w w [] :=
  of_same rfl rfl (fun _ => rfl) (fun _ _ => rfl) rfl rfl

theorem mono {T' : String → Prop} (h : Evolves T n w w' new) (hT : ∀ m, T m → T' m) :
    Evolves T' n w w' new :=
  ⟨h.log, h.fate, h.standing, h.next, fun m hm => h.slots m (hm ∘ hT m),
    fun m hm => h.live m (hm ∘ hT m), h.warnings⟩

theorem trans (h : Evolves T n w w' new) (h' : Evolves T n' w' w'' new') :
    Evolves T (n + n') w w'' (new ++ new') := by
  refine ⟨by rw [h'.log, h.log, List.append_assoc], ?_, ?_, Nat.le_trans h.next h'.next,
    fun m hm => (h'.slots m hm).trans (h.slots m hm), ?_,
    by rw [h'.warnings, h.warnings, Nat.add_assoc]⟩
  · intro id c hst
    -- a container torn down by the first step cannot come back by the second:
    -- numbers are not used again
    rcases h.fate id c hst with hs | ht
    · exact hs.fate (h'.fate id c hs.standing)
    · obtain ⟨pre, post, hnew, hpre⟩ := ht.calls
      refine .inr ⟨?_, Nat.lt_of_lt_of_le ht.past h'.next, pre, post ++ new', ?_, hpre⟩
      · cases hst' : w''.standing? id with
        | none => rfl
        | some c' =>
          rcases h'.standing id c' hst' with hle | hback
          · exact absurd ht.past (Nat.not_lt.mpr hle)
          · rw [ht.gone] at hback
            exact absurd hback (by simp)
      · rw [hnew]
        simp only [List.append_assoc]
  · intro id c hst
    rcases h'.standing id c hst with hle | hst
    · exact .inl (Nat.le_trans h.next hle)
    · exact h.standing id c hst
  · intro m hm x hx
    have hx' : w'.held (.slot m) = some x := by
      show (w'.slots[m]?).bind _ = _
      rw [h.slots m hm]
      exact hx
    exact (h'.live m hm x hx').trans (h.live m hm x hx)

end Evolves

/-! ## §4. Steps of a host. -/

/-- Work at the gateway, applied to a host. -/
theorem through_apply {α : Type} (m : StateM Gateway α) (w : Host) :
    through m w = ((m w.gateway).1, { w with gateway := (m w.gateway).2 }) := rfl

/-- The host `w'` is sound up to the debts `d`, and `w` evolved into it. -/
structure Reaches (calm : Prop) (T : String → Prop) (n : Nat) (w w' : Host) (d : Debts) : Prop where
  sound : Sound calm w' d
  evolves : ∃ new, Evolves T n w w' new

variable {calm : Prop} {T : String → Prop} {n n' : Nat} {w w' w'' : Host} {d d' : Debts}

theorem Reaches.refl (hw : Sound calm w d) : Reaches calm T 0 w w d := ⟨hw, [], .refl T w⟩

/-- Steps in sequence, with their warnings added up. -/
theorem Reaches.chain (h : Reaches calm T n w w' d) (h' : Reaches calm T n' w' w'' d') :
    Reaches calm T (n + n') w w'' d' := by
  obtain ⟨new, hnew⟩ := h.evolves
  obtain ⟨new', hnew'⟩ := h'.evolves
  exact ⟨h'.sound, new ++ new', hnew.trans hnew'⟩

theorem Reaches.trans (h : Reaches calm T 0 w w' d) (h' : Reaches calm T 0 w' w'' d') :
    Reaches calm T 0 w w'' d' :=
  h.chain h'

theorem Sound.standing_next (hw : Sound calm w d) {id : ContainerId} {c : Container}
    (h : w.standing? id = some c) : id < w.containers.next :=
  hw.containerIds id c (Option.filter_eq_some_iff.mp h).1

theorem standing?_eq_some {id : ContainerId} {c : Container} :
    w.standing? id = some c ↔ w.containers.get? id = some c ∧ c.handle.released = false := by
  unfold standing?
  rw [Option.filter_eq_some_iff]
  simp [Container.isClosed]

theorem packageHandle?_eq_some {k : PackageId} {h : Handle} :
    w.packageHandle? k = some h ↔ ∃ p, w.packages.get? k = some p ∧ p.handle.released = false
      ∧ p.handle.handle = h := by
  unfold packageHandle?
  rw [Option.bind_eq_some_iff]
  simp [OwnedHandle.get?]

/-- Events, files and the like do not matter. -/
theorem Reaches.same (hw : Sound calm w d) (he : w'.gateway.engine = w.gateway.engine)
    (hf : w'.gateway.faults = w.gateway.faults) (hc : w'.containers = w.containers)
    (hp : w'.packages = w.packages) (hs : w'.slots = w.slots) : Reaches calm T 0 w w' d := by
  have hheld : w'.held = w.held := by
    funext pl
    cases pl <;> simp only [held, hc, hp, hs]
  have hown : ∀ id, w'.containerOwned id = w.containerOwned id := fun id => by
    unfold containerOwned
    rw [hs]
  have hown' : ∀ k, w'.packageOwned k = w.packageOwned k := fun k => by
    unfold packageOwned
    rw [hs, hc]
  refine ⟨⟨?_, ?_, ?_, ?_, ?_, ?_, ?_, ?_, ?_, ?_, ?_⟩, [], .of_same ?_ hc ?_ ?_ ?_ ?_⟩
  · rw [he, hheld]
    exact hw.ledger
  · rw [hheld]
    exact hw.kinds
  · rw [hs]
    exact hw.slots
  · rw [hc]
    exact hw.containerIds
  · rw [hp]
    exact hw.packageIds
  · rw [hc, hp]
    exact hw.members
  · rw [hc, hp, he]
    exact hw.linked
  · simp only [hc, hown]
    exact hw.containersOwned
  · simp only [hp, hown']
    exact hw.packagesOwned
  · rw [hs, he]
    exact hw.fetches
  · rw [hf]
    exact hw.calm
  · show w'.gateway.engine.log = _
    rw [he]
    rfl
  · intro k
    unfold packageHandle?
    rw [hp]
  · intro m _
    rw [hs]
  · rw [he]
  · rw [he]

/-- Gateway work that disturbs nobody. -/
theorem Reaches.gateway (hw : Sound calm w d) {g : Gateway} {hs : List OwnedHandle}
    (hm : w.gateway.Moved w.held hs g) :
    Reaches calm T 0 w { w with gateway := g } { d with handles := hs } := by
  obtain ⟨new, hlog, hnew⟩ := hm.frame.log
  -- the new calls give nothing back that is held at a place
  have hspares : ∀ pl x, w.held pl = some x → spares new x.handle = true := by
    intro pl x hx
    rw [spares, Bool.not_eq_true', ← Bool.not_eq_true, List.contains_iff_mem]
    exact fun hmem => hnew _ hmem rfl pl x hx rfl
  refine ⟨⟨hm.ledger, hw.kinds, hw.slots, hw.containerIds, hw.packageIds, hw.members, ?_,
    hw.containersOwned, hw.packagesOwned, ?_, fun h => hm.calm (hw.calm h)⟩, new, hlog, ?_,
    fun id c h => .inr h, Nat.le_refl _, fun _ _ => rfl,
    fun m _ x hx => hm.frame.live (.slot m) x hx, hm.frame.registryWarnings⟩
  · intro k p hk
    obtain ⟨hlink, hopen⟩ := hw.linked k p hk
    refine ⟨hlink, fun hr => ?_⟩
    obtain ⟨id, c, hc, hmem, ⟨a, i, hl⟩, hclosing⟩ := hopen hr
    exact ⟨id, c, hc, hmem, ⟨a, i, (hm.frame.live _ _ (held_package hk)).trans hl⟩, hclosing⟩
  · exact hw.fetches_of_live fun m => hm.frame.live (.slot m)
  · intro id c hst
    obtain ⟨hc, -⟩ := standing?_eq_some.mp hst
    refine .inl ⟨hst, hspares _ _ (held_container hc), fun k _ => ?_⟩
    show w.packageHandle? k = _
    exact packageHandle?_spared (hspares _)

end Host

end EpubAccess
