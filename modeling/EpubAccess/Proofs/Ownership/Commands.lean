/-
  EpubAccess.Proofs.Ownership.Commands
  ────────────────────────────────
  Every command keeps a host sound.

  `Host.run_reaches` is the step lemma: whatever a host that goes through the
  library is asked for, it stays sound and evolves, touching only the slots
  that the command names (`Command.writes`).  The engine warns only of a
  package that the host closes itself while its container stands
  (`Host.closesEarly`).
-/
import EpubAccess.Proofs.Ownership.Libraries
import EpubAccess.Proofs.Slots

namespace EpubAccess

open Stateful

/-- The slots that a command may fill, empty or work on. -/
def Command.writes : Command → List String
  | .drop slot | .owned slot _ | .fetch slot _ | .stream slot _ | .addToLibrary slot _
  | .closeLibrary slot => [slot]
  | .own _ _ dest | .openContainer _ _ dest | .rawStream _ _ dest | .selectPackage _ _ dest
  | .loadPackage _ _ dest | .packageStream _ _ _ dest | .fetchResource _ _ _ dest
  | .newLibrary dest | .loadLibrary _ dest => [dest]
  | .handOver slot _ dest => [slot, dest]
  | .libraryPackage _ _ dest => dest.toList
  | _ => []

namespace Host

/-- Does the command close a package itself, with success, while the container
of the package stands? -/
def closesEarly (w : Host) : Command → Bool
  | .package slot .close =>
    match (run (.package slot .close) w).1, w.slots[slot]? with
    | .flag true, some (.package k) => (w.packages.get? k).any w.isAttached
    | _, _ => false
  | _ => false

variable {calm : Prop} {T : String → Prop} {w : Host} {slot dest : String}

/-! ## §1. Slots by what they hold. -/

section Slots

variable {n : Nat} {d : Debts}

theorem withContainer_reaches {f : ContainerId → Container → StateM Host Answer}
    (hw : Sound calm w d) (hf : ∀ id c, w.slots[slot]? = some (.container id) →
      w.containers.get? id = some c → Reaches calm T 0 w (f id c w).2 d) :
    Reaches calm T 0 w (withContainer slot f w).2 d :=
  withContainer_keeps (P := fun w' => Reaches calm T 0 w w' d) (.refl hw) hf

theorem withPackage_reaches {f : PackageId → Package → StateM Host Answer}
    (hw : Sound calm w d) (hf : ∀ k p, w.slots[slot]? = some (.package k) →
      w.packages.get? k = some p → Reaches calm T 0 w (f k p w).2 d) :
    Reaches calm T 0 w (withPackage slot f w).2 d :=
  withPackage_keeps (P := fun w' => Reaches calm T 0 w w' d) (.refl hw) hf

theorem withStream_reaches {f : ContentStream → StateM Host Answer} (hw : Sound calm w d)
    (hf : ∀ s, w.slots[slot]? = some (.stream s) → Reaches calm T 0 w (f s w).2 d) :
    Reaches calm T 0 w (withStream slot f w).2 d :=
  withStream_keeps (P := fun w' => Reaches calm T 0 w w' d) (.refl hw) hf

theorem withFetch_reaches {f : Fetch → Package → StateM Host Answer} (hw : Sound calm w d)
    (hf : ∀ r p, w.slots[slot]? = some (.fetch r) → w.packages.get? r.package = some p →
      Reaches calm T 0 w (f r p w).2 d) :
    Reaches calm T 0 w (withFetch slot f w).2 d :=
  withFetch_keeps (P := fun w' => Reaches calm T 0 w w' d) (.refl hw) hf

theorem withLibrary_reaches {f : Library → StateM Host Answer} (hw : Sound calm w d)
    (hf : ∀ l, w.slots[slot]? = some (.library l) → Reaches calm T 0 w (f l w).2 d) :
    Reaches calm T 0 w (withLibrary slot f w).2 d :=
  withLibrary_keeps (P := fun w' => Reaches calm T 0 w w' d) (.refl hw) hf

/-- No slot holds a loose handle. -/
theorem withOwned_reaches {f : OwnedHandle → StateM Host Answer} (hw : Sound calm w d) :
    Reaches calm T 0 w (withOwned slot f w).2 d :=
  withOwned_keeps (P := fun w' => Reaches calm T 0 w w' d) (.refl hw)
    fun x ho => absurd ho (hw.slots slot x)

end Slots

/-! ## §2. Streams that are opened. -/

/-- A stream in hand fits into any slot. -/
theorem Fits.stream (e : Engine) {s : ContentStream} (hk : s.handle.kind = .stream) :
    Fits calm e (.stream s) := by
  refine ⟨fun _ h => absurd h (by simp), fun x hx => ?_, fun _ h => absurd h (by simp)⟩
  cases hx
  exact hk

/-- An opened stream put into its slot. -/
theorem storeStream_reaches {s : Option ContentStream}
    (hw : Sound calm w ⟨s.toList.map ContentStream.handle, [], [], []⟩) (hT : T dest)
    (hk : ∀ x, s = some x → x.handle.kind = .stream) :
    Reaches calm T 0 w (storeStream dest s w).2 .none := by
  cases s with
  | none => exact .refl hw
  | some s =>
    have hw' : Sound calm w ⟨(Holding.stream s).handles ++ [], [], [], []⟩ := hw
    exact store_reaches hw' hT (.stream _ (hk s rfl)) (by simp) (by simp)

/-- A stream opened by work at the gateway and put into its slot. -/
theorem openInto_reaches {m : StateM Gateway (Option ContentStream)} {found : Option Cursor}
    {cap : UInt64} (hw : Sound calm w .none) (hT : T dest)
    (hm : Opened w.held [] found cap w.gateway (m w.gateway).1 (m w.gateway).2) :
    Reaches calm T 0 w
      (storeStream dest (m w.gateway).1 { w with gateway := (m w.gateway).2 }).2 .none := by
  have hmoved := hm.moved
  rw [List.append_nil] at hmoved
  have hgate := Reaches.gateway (T := T) hw hmoved
  exact hgate.trans (storeStream_reaches hgate.sound hT hm.kind)

/-! ## §3. The families. -/

/-- Work about a container or a package leaves the host sound. -/
theorem Reaches.only {α : Type} {k : HandleKind} {x : OwnedHandle} {pl : Place} {post : α → Prop}
    {m : StateM Gateway α} (hw : Sound calm w .none) (hm : Gateway.Only k x.get? post m)
    (hx : w.held pl = some x) (hk : x.kind = k) (hne : k ≠ .stream) :
    Reaches calm T 0 w { w with gateway := (m w.gateway).2 } .none ∧ post (m w.gateway).1 := by
  obtain ⟨hmoved, hpost⟩ := hm.moved_held hw.ledger hx hk hne
  exact ⟨.gateway hw hmoved, hpost⟩

theorem Sound.held_package {d : Debts} {k : PackageId} {p : Package} (hw : Sound calm w d)
    (hp : w.packages.get? k = some p) :
    w.held (.package k) = some p.handle ∧ p.handle.kind = .package :=
  ⟨Host.held_package hp, hw.kinds _ _ (Host.held_package hp)⟩

theorem Sound.held_container {d : Debts} {id : ContainerId} {c : Container} (hw : Sound calm w d)
    (hc : w.containers.get? id = some c) :
    w.held (.container id) = some c.handle ∧ c.handle.kind = .container :=
  ⟨Host.held_container hc, hw.kinds _ _ (Host.held_container hc)⟩

theorem runNotifier_reaches (op : NotifierOp) (hw : Sound calm w .none) :
    Reaches calm T 0 w (runNotifier op w).2 .none := by
  cases op with
  | report message severe =>
    unfold runNotifier
    simp only [bind_apply, get_apply, through_apply, modify_apply, pure_apply]
    exact .same hw (by simp) (by simp) rfl rfl rfl
  | _ => exact .same hw rfl rfl rfl rfl rfl

theorem runContainer_reaches (op : ContainerOp) (hw : Sound calm w .none) :
    Reaches calm T 0 w (runContainer slot op w).2 .none := by
  cases op with
  | info => exact withContainer_reaches hw fun _ _ _ _ => .refl hw
  | close => exact withContainer_reaches hw fun id _ _ _ => closeContainer_reaches id hw
  | rawBytes path =>
    refine withContainer_reaches hw fun id c _ hc => ?_
    obtain ⟨hheld, hkind⟩ := hw.held_container hc
    exact .gateway hw (Container.rawBytes_moved hw.ledger hheld hkind path)

/-- Everything that a package is asked, but closing it. -/
theorem runPackage_reaches (op : PackageOp) (hop : op ≠ .close) (hw : Sound calm w .none) :
    Reaches calm T 0 w (runPackage slot op w).2 .none := by
  cases op with
  | close => exact absurd rfl hop
  | property name vocabulary =>
    refine withPackage_reaches hw fun k p _ hp => ?_
    obtain ⟨hheld, hkind⟩ := hw.held_package hp
    exact (Reaches.only hw (p.property_only name vocabulary) hheld hkind (by simp)).1
  | hasProperty name vocabulary =>
    refine withPackage_reaches hw fun k p _ hp => ?_
    obtain ⟨hheld, hkind⟩ := hw.held_package hp
    exact (Reaches.only hw (p.hasProperty_only name vocabulary) hheld hkind (by simp)).1
  | navigation kind =>
    refine withPackage_reaches hw fun k p _ hp => ?_
    obtain ⟨hheld, hkind⟩ := hw.held_package hp
    obtain ⟨hgate, hh, hl⟩ :=
      Reaches.only (T := T) hw (p.navigation_only kind) hheld hkind (by simp)
    exact hgate.trans (.setPackage hgate.sound hp hh hl)
  | probeSize path =>
    refine withPackage_reaches hw fun k p _ hp => ?_
    obtain ⟨hheld, hkind⟩ := hw.held_package hp
    exact (Reaches.only hw (p.probeSize_only (w.isAttached p) path) hheld hkind (by simp)).1
  | setRootUrls urls =>
    exact withPackage_reaches hw fun k p _ hp => .setPackage hw hp rfl rfl
  | describe =>
    refine withPackage_reaches hw fun k p _ hp => ?_
    obtain ⟨hheld, hkind⟩ := hw.held_package hp
    exact (Reaches.only hw p.describe_only hheld hkind (by simp)).1
  | _ => exact withPackage_reaches hw fun _ _ _ _ => .refl hw

theorem run_close_some {k : PackageId} {p : Package} (ho : w.slots[slot]? = some (.package k))
    (hp : w.packages.get? k = some p) :
    run (.package slot .close) w = (.flag (closePackage k w).1, (closePackage k w).2) :=
  withPackage_some ho hp

theorem closesEarly_close (w : Host) (slot : String) :
    w.closesEarly (.package slot .close)
      = match (run (.package slot .close) w).1, w.slots[slot]? with
        | .flag true, some (.package k) => (w.packages.get? k).any w.isAttached
        | _, _ => false := rfl

theorem closesEarly_some {k : PackageId} {p : Package} (ho : w.slots[slot]? = some (.package k))
    (hp : w.packages.get? k = some p) :
    w.closesEarly (.package slot .close) = ((closePackage k w).1 && w.isAttached p) := by
  rw [closesEarly_close, run_close_some ho hp]
  simp only [ho]
  cases (closePackage k w).1 with
  | false => rfl
  | true =>
    show (w.packages.get? k).any w.isAttached = _
    rw [hp]
    rfl

/-- Closing a package: the engine warns if its container stands. -/
theorem runPackage_close_reaches (hw : Sound calm w .none) :
    Reaches calm T (if w.closesEarly (.package slot .close) then 1 else 0) w
      (run (.package slot .close) w).2 .none := by
  -- without a package in the slot there is nothing to close
  by_cases h : ∃ k p, w.slots[slot]? = some (.package k) ∧ w.packages.get? k = some p
  · obtain ⟨k, p, ho, hp⟩ := h
    rw [closesEarly_some ho hp, run_close_some ho hp]
    cases hr : p.handle.released with
    | true =>
      obtain ⟨hreach, hdone⟩ := closePackage_again (T := T) hw hp hr
      rw [hdone]
      exact hreach
    | false =>
      obtain ⟨hclosed, hdone⟩ := closePackage_closed (T := T) hw hp hr [] (by simp)
      rw [hdone, Bool.true_and]
      exact ⟨hclosed.sound, _, hclosed.evolves⟩
  · have hrun : run (.package slot .close) w = (.noSlot, w) := withPackage_none fun k ho => by
      cases hp : w.packages.get? k with
      | none => rfl
      | some p => exact absurd ⟨k, p, ho, hp⟩ h
    have hearly : w.closesEarly (.package slot .close) = false := by
      rw [closesEarly_close, hrun]
    rw [hearly, hrun]
    exact .refl hw

theorem runOpen_reaches (path : String) (config : Config) (hw : Sound calm w .none) (hT : T dest) :
    Reaches calm T 0 w (runOpen path config dest w).2 .none := by
  unfold runOpen
  rw [bind_apply]
  rcases openContainer_reaches (T := T) path config hw with ⟨⟨e, he⟩, hstep⟩ | ⟨id, he, hstep⟩
  · rw [he]
    exact hstep
  · rw [he]
    generalize (openContainer path config w).2 = w1 at hstep ⊢
    dsimp only
    rw [get_bind_apply]
    cases hc : w1.containers.get? id with
    | none =>
      refine hstep.trans (.refl (hstep.sound.settle (fun j hj c hc' => ?_) fun _ h _ _ => .inr h))
      rw [List.mem_singleton.mp hj, hc] at hc'
      exact absurd hc' (by simp)
    | some c =>
      have hfit : Fits calm w1.gateway.engine (.container id) :=
        ⟨fun _ h => absurd h (by simp), fun _ h => absurd h (by simp [Holding.handle?]),
          fun _ h => absurd h (by simp)⟩
      have hstore : Reaches calm T 0 w1 (store dest (.container id) w1).2 .none :=
        store_reaches hstep.sound hT hfit (fun j hj => .inl hj) (by simp)
      exact hstep.trans hstore

/-- An object that holds no handle itself put into a slot. -/
theorem storeQuiet_reaches {o : Holding} (hw : Sound calm w .none) (hT : T dest)
    (hfit : Fits calm w.gateway.engine o) (hh : o.handle? = none) :
    Reaches calm T 0 w (store dest o w).2 .none := by
  have hw' : Sound calm w ⟨o.handles ++ [], [], [], []⟩ := by
    rw [Holding.handles, hh]
    exact hw
  exact store_reaches hw' hT hfit (by simp) (by simp)

theorem Fits.package (e : Engine) (k : PackageId) : Fits calm e (.package k) :=
  ⟨fun _ h => absurd h (by simp), fun _ h => absurd h (by simp [Holding.handle?]),
    fun _ h => absurd h (by simp)⟩

/-- A fetch without a stream fits into any slot. -/
theorem Fits.fetch (e : Engine) {f : Fetch} (hf : f.Ready calm e) : Fits calm e (.fetch f) := by
  refine ⟨fun _ h => absurd h (by simp), fun x hx => ?_, ?_⟩
  · obtain ⟨s, hs, rfl⟩ := Option.map_eq_some_iff.mp hx
    rw [(hf s hs).handle]
    rfl
  · rintro _ ⟨⟩
    exact hf

theorem runSelect_reaches (index : Option Nat) (hw : Sound calm w .none) (hT : T dest) :
    Reaches calm T 0 w (runSelect slot index dest w).2 .none :=
  runSelect_keeps (P := fun w' => Reaches calm T 0 w w' .none) (.refl hw) fun _ _ k _ _ =>
    storeQuiet_reaches hw hT (.package _ k) rfl

/-- An attached package is not attached again. -/
theorem addPackage_reaches (id : ContainerId) (k : PackageId) (hw : Sound calm w .none) :
    Reaches calm T 0 w (addPackage id k w).2 .none := by
  unfold addPackage
  rw [get_bind_apply]
  cases hc : w.containers.get? id with
  | none => exact .refl hw
  | some c =>
    cases hp : w.packages.get? k with
    | none => exact .refl hw
    | some p =>
      obtain ⟨⟨link, hlink⟩, -⟩ := hw.linked k p hp
      have hattach : p.attach? { container := id, path := c.path } = none := by
        unfold Package.attach?
        rw [hlink]
      simp only [hattach]
      exact .same hw rfl rfl rfl rfl rfl

theorem runAddPackage_reaches (container package : String) (hw : Sound calm w .none) :
    Reaches calm T 0 w (runAddPackage container package w).2 .none := by
  refine withContainer_reaches hw fun id c _ _ => withPackage_reaches hw fun k p _ _ => ?_
  rw [get_bind_apply]
  by_cases h : w.containerOwners id ≤ 1
  · rw [if_pos h]
    exact addPackage_reaches id k hw
  · rw [if_neg h]
    exact .refl hw

theorem packageStream_reaches (path : String) (mode : StreamMode) (hw : Sound calm w .none)
    (hT : T dest) :
    Reaches calm T 0 w (run (.packageStream slot path mode dest) w).2 .none := by
  refine withPackage_reaches hw fun k p _ hp => ?_
  obtain ⟨hheld, hkind⟩ := hw.held_package hp
  cases mode with
  | filtered ranged =>
    exact openInto_reaches hw hT
      (Package.openStream_opened hw.ledger hheld hkind (w.isAttached p) path ranged)
  | raw =>
    exact openInto_reaches hw hT
      (Package.openRawStream_opened hw.ledger hheld hkind (w.isAttached p) path false)

theorem rawStream_reaches (path : String) (hw : Sound calm w .none) (hT : T dest) :
    Reaches calm T 0 w (run (.rawStream slot path dest) w).2 .none := by
  refine withContainer_reaches hw fun id c _ hc => ?_
  obtain ⟨hheld, hkind⟩ := hw.held_container hc
  exact openInto_reaches hw hT (Container.rawStream_opened hw.ledger hheld hkind path)

theorem runStream_reaches (op : StreamOp) (hw : Sound calm w .none) (hT : T slot) :
    Reaches calm T 0 w (runStream slot op w).2 .none := by
  refine withStream_reaches hw fun s ho => ?_
  have hkind : s.handle.kind = .stream := (hw.fits ho).kind s.handle rfl
  have hledger := (Reaches.takeOut (T := T) hw hT ho).sound.ledger
  obtain ⟨hmoved, hk⟩ := StreamOp.run_moved hledger hkind op
  exact .act hw hT ho hmoved (.stream _ hk)
    (fun _ h => .inr (h.resolve_left (by simp [Holding.containers])))
    fun _ h => .inr (h.resolve_left (by simp [Holding.packages]))

theorem runFetch_reaches (op : FetchOp) (hw : Sound calm w .none) (hT : T slot) :
    Reaches calm T 0 w (runFetch slot op w).2 .none := by
  refine withFetch_reaches hw fun f p ho hp => ?_
  obtain ⟨hheld, hkind⟩ := hw.held_package hp
  have hledger := (Reaches.takeOut (T := T) hw hT ho).sound.ledger
  rw [Holding.handles_fetch] at hledger
  have hkept : Fetch.Kept (held { w with slots := w.slots.erase slot }) [] calm f w.gateway
      (op.run f p (w.isAttached p) w.gateway).1.2 (op.run f p (w.isAttached p) w.gateway).2 :=
    Fetch.run_kept (i := Place.package f.package) hledger hheld hkind hw.refusing
      (hw.fetches slot f ho) (w.isAttached p) op
  rw [get_bind_apply]
  simp only [bind_apply, through_apply]
  generalize op.run f p (w.isAttached p) w.gateway = r at hkept ⊢
  have hmoved := hkept.moved
  rw [← Holding.handles_fetch] at hmoved
  have hpackages : (Holding.fetch r.1.2).packages = (Holding.fetch f).packages :=
    congrArg (fun k => [k]) hkept.target.package
  exact .act hw hT ho hmoved (.fetch _ hkept.ready) (fun _ h => h) fun k h =>
    h.imp_left fun hmem => hpackages.symm ▸ hmem

/-- The stream of a fetch taken into hand. -/
theorem handOver_reaches {f : Fetch} {p : Package} (ranged : Bool) (hw : Sound calm w .none)
    (hT : T slot) (ho : w.slots[slot]? = some (.fetch f))
    (hp : w.packages.get? f.package = some p) :
    let x := f.handOver p (w.isAttached p) ranged w.gateway
    Reaches calm T 0 w { w with gateway := x.2, slots := w.slots.insert slot (.fetch x.1.2) }
        ⟨x.1.1.toList.map ContentStream.handle, [], [], []⟩
      ∧ ∀ s, x.1.1 = some s → s.handle.kind = .stream := by
  obtain ⟨hheld, hkind⟩ := hw.held_package hp
  have hledger := (Reaches.takeOut (T := T) hw hT ho).sound.ledger
  rw [Holding.handles_fetch] at hledger
  obtain ⟨hmoved, hnone, htarget, hstart⟩ := Fetch.handOver_kept (i := Place.package f.package)
    hledger hheld hkind hw.refusing (hw.fetches slot f ho) (w.isAttached p) ranged
  intro x
  change x.1.2.stream = none at hnone
  have hready : x.1.2.Ready calm x.2.engine := fun s hs => by
    rw [hnone] at hs
    exact absurd hs (by simp)
  have hmoved' : w.gateway.Moved (held { w with slots := w.slots.erase slot })
      ((Holding.fetch x.1.2).handles ++ x.1.1.toList.map ContentStream.handle) x.2 := by
    simpa [Fetch.handles, hnone] using hmoved
  refine ⟨.act hw hT ho hmoved' (.fetch _ hready) (fun _ h => h) fun k h => ?_, fun s hs => ?_⟩
  · refine h.imp_left fun hmem => ?_
    show k ∈ [x.1.2.package]
    rw [show x.1.2.package = f.package from htarget.package]
    exact hmem
  · rw [(hstart s hs).handle]
    rfl

theorem runHandOver_reaches (ranged : Bool) (hw : Sound calm w .none) (hT : T slot)
    (hT' : T dest) : Reaches calm T 0 w (runHandOver slot ranged dest w).2 .none := by
  refine withFetch_reaches hw fun f p ho hp => ?_
  obtain ⟨hact, hkind⟩ := handOver_reaches (T := T) ranged hw hT ho hp
  exact hact.trans (storeStream_reaches hact.sound hT' hkind)

/-- Reading a library from a file changes no object. -/
theorem readLibrary_reaches (file : String) (hw : Sound calm w .none) :
    Reaches calm T 0 w (loadLibrary file w).2 .none := by
  unfold loadLibrary
  rw [get_bind_apply]
  cases w.files.read file with
  | error e => exact .refl hw
  | ok bytes =>
    dsimp only
    cases Library.ofBytes? bytes with
    | none => exact .refl hw
    | some l => exact .same hw rfl rfl rfl rfl rfl

theorem loadLibrary_reaches (file : String) (hw : Sound calm w .none) (hT : T dest) :
    Reaches calm T 0 w (run (.loadLibrary file dest) w).2 .none := by
  show Reaches calm T 0 w ((loadLibrary file >>= _) w).2 .none
  rw [bind_apply]
  have hload := readLibrary_reaches (T := T) file hw
  generalize loadLibrary file w = r at hload ⊢
  obtain ⟨r, w1⟩ := r
  cases r with
  | error e => exact hload
  | ok l => exact hload.trans (storeQuiet_reaches hload.sound hT (.library _ l) rfl)

theorem saveLibrary_reaches (file : String) (hw : Sound calm w .none) :
    Reaches calm T 0 w (run (.saveLibrary slot file) w).2 .none := by
  refine withLibrary_reaches hw fun l _ => ?_
  rw [bind_apply]
  have hsave : Reaches calm T 0 w (saveLibrary l file w).2 .none := by
    unfold saveLibrary
    rw [get_bind_apply]
    cases w.files.write file l.toDocument.toUTF8 with
    | error e => exact .refl hw
    | ok files => exact .same hw rfl rfl rfl rfl rfl
  generalize saveLibrary l file w = r at hsave ⊢
  obtain ⟨r, w1⟩ := r
  cases r <;> exact hsave

theorem runQuery_reaches (q : LibraryQuery) (hw : Sound calm w .none) :
    Reaches calm T 0 w (runQuery slot q w).2 .none := by
  refine withLibrary_reaches hw fun l _ => ?_
  cases q <;> exact .refl hw

theorem runLibraryPackage_reaches (key : PackageKey) (dest : Option String)
    (hw : Sound calm w .none) (hT : ∀ x ∈ dest, T x) :
    Reaches calm T 0 w (runLibraryPackage slot key dest w).2 .none := by
  refine withLibrary_reaches hw fun l _ => ?_
  rw [get_bind_apply]
  cases findPackage l key with
  | none => exact .refl hw
  | some k =>
    cases dest with
    | none => exact .refl hw
    | some dest => exact storeQuiet_reaches hw (hT dest rfl) (.package _ k) rfl

theorem writeFile_reaches (file : String) (bytes : ByteArray) (hw : Sound calm w .none) :
    Reaches calm T 0 w (run (.writeFile file bytes) w).2 .none := by
  show Reaches calm T 0 w ((get >>= _ : StateM Host Answer) w).2 .none
  rw [get_bind_apply]
  cases w.files.write file bytes with
  | error e => exact .refl hw
  | ok files => exact .same hw rfl rfl rfl rfl rfl

theorem showFile_reaches (file : String) (hw : Sound calm w .none) :
    Reaches calm T 0 w (run (.showFile file) w).2 .none := by
  show Reaches calm T 0 w ((get >>= _ : StateM Host Answer) w).2 .none
  rw [get_bind_apply]
  cases w.files.read file <;> exact .refl hw

/-- Another archive behind a path changes no object. -/
theorem register_reaches (path : String) (archive : Archive) (hw : Sound calm w .none) :
    Reaches calm T 0 w (run (.register path archive) w).2 .none := by
  have l := hw.ledger
  refine ⟨⟨?_, hw.kinds, hw.slots, hw.containerIds, hw.packageIds, hw.members, hw.linked,
    hw.containersOwned, hw.packagesOwned, fun m f hf => (hw.fetches m f hf).mono fun _ _ => rfl,
    hw.calm⟩, [], .of_same rfl rfl (fun _ => rfl) (fun _ _ => rfl) rfl rfl⟩
  exact ⟨l.live, l.owned, l.issued, l.apart, l.looseApart, l.looseNodup, l.order, l.spent, l.ended,
    l.doubleReleases, l.danglingUses⟩

/-- A fault that is prepared changes no object; a calm run prepares none. -/
theorem inject_reaches (fault : Fault) (hcalm : ¬ calm) (hw : Sound calm w .none) :
    Reaches calm T 0 w (run (.inject fault) w).2 .none :=
  ⟨⟨hw.ledger, hw.kinds, hw.slots, hw.containerIds, hw.packageIds, hw.members, hw.linked,
    hw.containersOwned, hw.packagesOwned, hw.fetches, fun h => absurd h hcalm⟩, [],
    .of_same rfl rfl (fun _ => rfl) (fun _ _ => rfl) rfl rfl⟩

/-! ## §4. Every command. -/

/-- **Every command keeps a host sound**, touches no slot but those it names,
and makes the engine warn only where the host closes a package early. -/
theorem run_reaches (c : Command) (hc : c.isDirect = false) (hq : calm → ∀ f, c ≠ .inject f)
    (hw : Sound calm w .none) :
    Reaches calm (· ∈ c.writes) (if w.closesEarly c then 1 else 0) w (run c w).2 .none := by
  have hself : ∀ x : String, x ∈ [x] := fun x => List.mem_singleton_self x
  -- one case for each constructor: direct commands are excluded, and closing a
  -- package is the one that may make the engine warn
  cases c with
  | register path archive => exact register_reaches path archive hw
  | inject fault => exact inject_reaches fault (fun h => hq h fault rfl) hw
  | lastHint => exact .refl hw
  | engine r => exact absurd hc (by simp [Command.isDirect])
  | released => exact .refl hw
  | notifier op => exact runNotifier_reaches op hw
  | writeFile file bytes => exact writeFile_reaches file bytes hw
  | showFile file => exact showFile_reaches file hw
  | drop slot => exact clear_reaches slot hw (hself slot)
  | own h kind dest => exact absurd hc (by simp [Command.isDirect])
  | owned slot op => cases op <;> exact withOwned_reaches hw
  | openContainer path config dest => exact runOpen_reaches path config hw (hself dest)
  | container slot op => exact runContainer_reaches op hw
  | rawStream slot path dest => exact rawStream_reaches path hw (hself dest)
  | addPackage container package => exact runAddPackage_reaches container package hw
  | selectPackage slot index dest => exact runSelect_reaches index hw (hself dest)
  | loadPackage h config dest => exact absurd hc (by simp [Command.isDirect])
  | package slot op =>
    by_cases hop : op = .close
    · subst hop
      exact runPackage_close_reaches hw
    · have hearly : w.closesEarly (.package slot op) = false := by
        cases op <;> first | rfl | exact absurd rfl hop
      rw [hearly]
      exact runPackage_reaches op hop hw
  | packageStream slot path mode dest => exact packageStream_reaches path mode hw (hself dest)
  | fetchResource slot path raw dest =>
    exact withPackage_reaches hw fun k _ _ _ => storeQuiet_reaches hw (hself dest)
      (.fetch _ fun _ h => absurd h (by simp [Fetch.start])) rfl
  | fetchInfo slot => exact withFetch_reaches hw fun _ _ _ _ => .refl hw
  | fetch slot op => exact runFetch_reaches op hw (hself slot)
  | handOver slot ranged dest =>
    exact runHandOver_reaches ranged hw (List.mem_cons_self ..)
      (List.mem_cons_of_mem _ (hself dest))
  | stream slot op => exact runStream_reaches op hw (hself slot)
  | streamInfo slot => exact withStream_reaches hw fun _ _ => .refl hw
  | newLibrary dest => exact storeQuiet_reaches hw (hself dest) (.library _ _) rfl
  | loadLibrary file dest => exact loadLibrary_reaches file hw (hself dest)
  | saveLibrary slot file => exact saveLibrary_reaches file hw
  | addToLibrary slot container =>
    exact withLibrary_reaches hw fun l hl => withContainer_reaches hw fun id _ _ _ =>
      addToLibrary_reaches id hw (hself slot) hl
  | library slot query => exact runQuery_reaches query hw
  | libraryPackage slot key dest =>
    exact runLibraryPackage_reaches key dest hw fun x hx => by simpa [Command.writes] using hx
  | closeLibrary slot =>
    exact withLibrary_reaches hw fun l hl =>
      closeLibraryIn_reaches l.containerIds (fun _ h => h) hw (hself slot) hl

end Host

end EpubAccess
