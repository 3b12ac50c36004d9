/-
  EpubAccess.Proofs.Reports.Commands
  ────────────────────────────────
  What is reported of a command.

  `Host.misuse?` says of a command what is reported of it as misuse: the use
  of an object that was closed, a second request to close one, or a package
  that is to be attached again.  `Host.unreached?` says the same of packages
  whose container is not there.

  Each command makes the one remark that it is due, if any, and no other
  (`Host.run_remarks`); one that makes no package leaves the numbers of
  packages alone (`Host.run_notes`).
-/
import EpubAccess.Proofs.Reports.Discreet
import EpubAccess.Proofs.Slots

namespace EpubAccess

open Stateful Gateway

/-! ## §1. Misuse. -/

/-- Is the command an operation of a loose handle, which no object holds? -/
def Command.isLoose : Command → Bool
  | .owned _ _ => true
  | _ => false

/-- Does the command make packages? -/
def Command.opens : Command → Bool
  | .openContainer _ _ _ | .loadPackage _ _ _ => true
  | _ => false

/-- What is reported of an operation of a container. -/
def ContainerOp.misuse? (c : Container) : ContainerOp → Option Event
  | close => c.handle.misuse?
  | rawBytes _ => c.misuse?
  | info => none

/-- What is reported of an operation of a package. -/
def PackageOp.misuse? (p : Package) : PackageOp → Option Event
  | close => p.handle.misuse?
  | property _ _ => p.misuse? .property
  | hasProperty _ _ => p.misuse? .hasProperty
  | navigation _ => p.misuse? .navigation
  | probeSize _ => p.misuse? .probeSize
  | _ => none

/-- The access that opening a stream is. -/
def StreamMode.access : StreamMode → PackageAccess
  | filtered _ => .openStream
  | raw => .openRawStream

namespace Host

variable {w w' w'' : Host} {slot dest : String} {r : Option Event}

/-- The container in a slot, with its number. -/
def containerIn? (w : Host) (slot : String) : Option (ContainerId × Container) :=
  match w.slots[slot]? with
  | some (.container id) => (w.containers.get? id).map fun c => (id, c)
  | _ => none

/-- The package in a slot. -/
def packageIn? (w : Host) (slot : String) : Option Package :=
  match w.slots[slot]? with
  | some (.package k) => w.packages.get? k
  | _ => none

/-- The stream in a slot. -/
def streamIn? (w : Host) (slot : String) : Option ContentStream :=
  match w.slots[slot]? with
  | some (.stream s) => some s
  | _ => none

/-- The fetch in a slot, with its package. -/
def fetchIn? (w : Host) (slot : String) : Option (Fetch × Package) :=
  match w.slots[slot]? with
  | some (.fetch f) => (w.packages.get? f.package).map fun p => (f, p)
  | _ => none

theorem slot_of_containerIn? {id : ContainerId} {c : Container}
    (h : w.containerIn? slot = some (id, c)) :
    w.slots[slot]? = some (.container id) ∧ w.containers.get? id = some c := by
  unfold containerIn? at h
  split at h
  · next j ho =>
    obtain ⟨b, hb, hpair⟩ := Option.map_eq_some_iff.mp h
    obtain ⟨rfl, rfl⟩ := Prod.mk.inj hpair
    exact ⟨ho, hb⟩
  · exact absurd h (by simp)

theorem slot_of_packageIn? {p : Package} (h : w.packageIn? slot = some p) :
    ∃ k, w.slots[slot]? = some (.package k) ∧ w.packages.get? k = some p := by
  unfold packageIn? at h
  split at h
  · next k ho => exact ⟨k, ho, h⟩
  · exact absurd h (by simp)

theorem slot_of_streamIn? {s : ContentStream} (h : w.streamIn? slot = some s) :
    w.slots[slot]? = some (.stream s) := by
  unfold streamIn? at h
  split at h
  · next ho => rw [ho, ← Option.some.inj h]
  · exact absurd h (by simp)

theorem slot_of_fetchIn? {f : Fetch} {p : Package} (h : w.fetchIn? slot = some (f, p)) :
    w.slots[slot]? = some (.fetch f) ∧ w.packages.get? f.package = some p := by
  unfold fetchIn? at h
  split at h
  · next f' ho =>
    obtain ⟨q, hq, hpair⟩ := Option.map_eq_some_iff.mp h
    obtain ⟨rfl, rfl⟩ := Prod.mk.inj hpair
    exact ⟨ho, hq⟩
  · exact absurd h (by simp)

/-- **What is reported of a command**: an object used that was closed before, a
second request to close it, or a package to be attached again to a container
that nothing else owns. -/
def misuse? (w : Host) : Command → Option Event
  | .container slot op => (w.containerIn? slot).bind fun (_, c) => op.misuse? c
  | .rawStream slot _ _ => (w.containerIn? slot).bind fun (_, c) => c.misuse?
  | .package slot op => (w.packageIn? slot).bind op.misuse?
  | .packageStream slot _ mode _ => (w.packageIn? slot).bind fun p => p.misuse? mode.access
  | .stream slot op => (w.streamIn? slot).bind fun s => op.misuse? s
  | .addPackage container package =>
    (w.containerIn? container).bind fun (id, _) => (w.packageIn? package).bind fun p =>
      if w.containerOwners id ≤ 1 then p.attachMisuse? else none
  | _ => none

/-- What is reported of an open package whose container is not there. -/
def unreached? (w : Host) : Command → Option Event
  | .package slot (.probeSize path) =>
    (w.packageIn? slot).bind fun p => p.unreached? (w.isAttached p) path
  | .packageStream slot path _ _ =>
    (w.packageIn? slot).bind fun p => p.unreached? (w.isAttached p) path
  | .fetch slot op => (w.fetchIn? slot).bind fun (f, p) => op.unreached? f p (w.isAttached p)
  | .handOver slot _ _ => (w.fetchIn? slot).bind fun (f, p) => f.unreached? p (w.isAttached p)
  | _ => none

/-! ## §2. Commands. -/

theorem bind_or_eq {α : Type} (x : Option α) (f g : α → Option Event) :
    (x.bind fun a => (f a).or (g a)) = (x.bind f).or (x.bind g) := by
  cases x <;> rfl

section Slots

theorem withContainer_notes {f : ContainerId → Container → StateM Host Answer}
    {r : ContainerId × Container → Option Event}
    (hf : ∀ id c, w.containers.get? id = some c → Notes (r (id, c)) w (f id c w).2) :
    Notes ((w.containerIn? slot).bind r) w (withContainer slot f w).2 := by
  unfold withContainer containerIn?
  rw [get_bind_apply]
  cases w.slots[slot]? with
  | none => exact .refl w
  | some o =>
    cases o with
    | container id =>
      dsimp only
      cases hc : w.containers.get? id with
      | none => exact .refl w
      | some c => exact hf id c hc
    | _ => exact .refl w

theorem withPackage_notes {f : PackageId → Package → StateM Host Answer}
    {r : Package → Option Event}
    (hf : ∀ k p, w.packages.get? k = some p → Notes (r p) w (f k p w).2) :
    Notes ((w.packageIn? slot).bind r) w (withPackage slot f w).2 := by
  unfold withPackage packageIn?
  rw [get_bind_apply]
  cases w.slots[slot]? with
  | none => exact .refl w
  | some o =>
    cases o with
    | package k =>
      dsimp only
      cases hp : w.packages.get? k with
      | none => exact .refl w
      | some p => exact hf k p hp
    | _ => exact .refl w

theorem withStream_notes {f : ContentStream → StateM Host Answer} {r : ContentStream → Option Event}
    (hf : ∀ s, Notes (r s) w (f s w).2) :
    Notes ((w.streamIn? slot).bind r) w (withStream slot f w).2 := by
  unfold withStream streamIn?
  rw [get_bind_apply]
  cases w.slots[slot]? with
  | none => exact .refl w
  | some o =>
    cases o with
    | stream s => exact hf s
    | _ => exact .refl w

theorem withFetch_notes {f : Fetch → Package → StateM Host Answer}
    {r : Fetch × Package → Option Event}
    (hf : ∀ x p, w.slots[slot]? = some (.fetch x) → Notes (r (x, p)) w (f x p w).2) :
    Notes ((w.fetchIn? slot).bind r) w (withFetch slot f w).2 := by
  unfold withFetch fetchIn?
  rw [get_bind_apply]
  cases ho : w.slots[slot]? with
  | none => exact .refl w
  | some o =>
    cases o with
    | fetch x =>
      dsimp only
      cases w.packages.get? x.package with
      | none => exact .refl w
      | some p => exact hf x p ho
    | _ => exact .refl w

/-- Work on an object that makes no remark, whatever is in the slot. -/
theorem withContainer_quiet {f : ContainerId → Container → StateM Host Answer}
    (hf : ∀ id c, w.containers.get? id = some c → Notes none w (f id c w).2) :
    Notes none w (withContainer slot f w).2 :=
  withContainer_keeps (.refl w) fun id c _ hc => hf id c hc

theorem withLibrary_quiet {f : Library → StateM Host Answer} (hf : ∀ l, Notes none w (f l w).2) :
    Notes none w (withLibrary slot f w).2 :=
  withLibrary_keeps (.refl w) fun l _ => hf l

end Slots

/-- Work at the gateway whose outcome is the answer. -/
theorem Notes.answer {α : Type} {P : α → Prop} {m : StateM Gateway α} (hm : Remarking r P m)
    (f : α → Answer) (w : Host) :
    Notes r w ((do return f (← Host.through m) : StateM Host Answer) w).2 :=
  Notes.through hm w

/-! ### Commands that report nothing. -/

/-- A message of the engine is no remark, however severe. -/
theorem deliver_plain (short : Nat) :
    ∀ (n : Notifier) (message : String) (severe : Bool),
      ∀ e ∈ (n.deliver short message severe).1.2, Event.isRemark e = false := by
  induction short with
  | zero =>
    intro n message severe e he
    unfold Notifier.deliver at he
    cases hn : n.handler with
    | none =>
      rw [hn] at he
      obtain rfl := Option.some.inj he
      cases severe <;> rfl
    | some mode =>
      rw [hn] at he
      cases mode <;> exact absurd he (by simp)
  | succ short ih =>
    intro n message severe e he
    unfold Notifier.deliver at he
    cases hn : n.handler with
    | none =>
      rw [hn] at he
      obtain rfl := Option.some.inj he
      cases severe <;> rfl
    | some mode =>
      rw [hn] at he
      cases mode with
      | nested => exact ih _ _ _ e he
      | _ => exact absurd he (by simp)

theorem runNotifier_discreet (op : NotifierOp) : Discreet (runNotifier op) := by
  have hnote : ∀ f : Host → Notifier,
      Discreet (modify fun w : Host => { w with notifier := f w }) :=
    fun _ => .modify fun _ => .same rfl rfl
  cases op with
  | install mode => exact .bind (hnote _) fun _ => .pure _
  | clear => exact .bind (hnote _) fun _ => .pure _
  | hasHandler => exact .look fun _ => .pure _
  | report message severe =>
    exact .look fun w =>
      .bind (through_discreet (.emit?_plain (deliver_plain _ w.notifier message severe))) fun _ =>
        .bind (hnote _) fun _ => .pure _

/-- What the engine says when it is asked directly is no remark. -/
theorem perform_plain (e : Engine) (q : Request) :
    ∀ notice, (e.perform q).1 = .released notice → ∀ n ∈ notice, Event.isRemark n = false := by
  intro notice h
  cases q with
  | releaseHandle x =>
    cases h
    exact takeBack_unremarked _ x
  | closeStream x =>
    cases h
    exact takeBack_unremarked _ x
  | _ => exact absurd h (by simp [Engine.perform])

theorem runRequest_discreet (q : Request) : Discreet (runRequest q) := by
  intro w
  have hreply := perform_plain w.gateway.engine q
  have hcall := Notes.through (Remarking.call fun e => e.perform q) w
  unfold runRequest
  rw [bind_apply]
  refine hcall.before ?_
  change ∀ notice, (through (Gateway.call fun e => e.perform q) w).1 = _ → _ at hreply
  generalize through (Gateway.call fun e => e.perform q) w = r at hreply ⊢
  obtain ⟨reply, w1⟩ := r
  cases reply with
  | released notice =>
    exact through_discreet (.emit?_plain (hreply notice rfl)) w1
  | _ => exact .refl w1

theorem runSelect_notes (hw : w.FetchesFresh) (index : Option Nat) :
    Notes none w (runSelect slot index dest w).2 :=
  runSelect_keeps (.refl w) fun _ _ k _ _ => store_notes hw dest (.package k)

theorem runLibraryPackage_notes (hw : w.FetchesFresh) (key : PackageKey) (dest : Option String) :
    Notes none w (runLibraryPackage slot key dest w).2 := by
  refine withLibrary_quiet fun l => ?_
  rw [get_bind_apply]
  cases findPackage l key with
  | none => exact .refl w
  | some k =>
    cases dest with
    | none => exact .refl w
    | some m => exact store_notes hw m _

theorem runLoadLibrary_notes (hw : w.FetchesFresh) (file : String) :
    Notes none w (run (.loadLibrary file dest) w).2 := by
  have hload := notes_inward.loadLibrary file w
  have hslots := loadLibrary_slots file w
  show Notes none w ((loadLibrary file >>= _) w).2
  rw [bind_apply]
  generalize loadLibrary file w = r at hload hslots ⊢
  obtain ⟨r, w1⟩ := r
  cases r with
  | error e => exact hload
  | ok l =>
    refine hload.before (store_notes ?_ dest _)
    intro slot f hf
    exact hw slot f (hslots ▸ hf)

/-! ### Commands that may report a misuse. -/

theorem runContainer_notes (op : ContainerOp) :
    Notes ((w.containerIn? slot).bind fun (_, c) => op.misuse? c) w (runContainer slot op w).2 := by
  cases op with
  | info => exact withContainer_notes fun _ _ _ => .refl w
  | close => exact withContainer_notes fun _ _ hc => closeContainer_notes hc
  | rawBytes path => exact withContainer_notes fun _ c _ => .answer (c.rawBytes_remarking path) _ w

/-- The remark of an operation of a package: its misuse, or that the container
is not there. -/
theorem runPackage_notes (op : PackageOp) :
    Notes ((w.misuse? (.package slot op)).or (w.unreached? (.package slot op))) w
      (runPackage slot op w).2 := by
  have hquiet : w.unreached? (.package slot op) = none →
      Notes (w.misuse? (.package slot op)) w (runPackage slot op w).2 →
      Notes ((w.misuse? (.package slot op)).or (w.unreached? (.package slot op))) w
        (runPackage slot op w).2 := by
    intro hnone h
    rwa [hnone, Option.or_none]
  cases op with
  | probeSize path =>
    show Notes (((w.packageIn? slot).bind fun p => p.misuse? .probeSize).or
      ((w.packageIn? slot).bind fun p => p.unreached? (w.isAttached p) path)) w _
    rw [← bind_or_eq]
    exact withPackage_notes fun _ p _ =>
      Notes.answer (p.probeSize_remarking (w.isAttached p) path) Answer.size w
  | close => exact hquiet rfl (withPackage_notes fun _ _ hp => closePackage_notes hp)
  | property name vocabulary =>
    exact hquiet rfl (withPackage_notes fun _ p _ =>
      .answer (p.property_remarking name vocabulary) _ w)
  | hasProperty name vocabulary =>
    exact hquiet rfl
      (withPackage_notes fun _ p _ => .answer (p.hasProperty_remarking name vocabulary) _ w)
  | navigation kind =>
    refine hquiet rfl (withPackage_notes fun k p _ => ?_)
    exact (Notes.through (p.navigation_remarking kind) w).before (.same rfl rfl)
  | setRootUrls urls => exact hquiet rfl (withPackage_notes fun _ _ _ => .same rfl rfl)
  | describe => exact hquiet rfl (withPackage_notes fun _ p _ => .answer p.describe_unremarked _ w)
  | _ => exact hquiet rfl (withPackage_notes fun _ _ _ => .refl w)

theorem packageStream_notes (hw : w.FetchesFresh) (path : String) (mode : StreamMode) :
    Notes ((w.misuse? (.packageStream slot path mode dest)).or
      (w.unreached? (.packageStream slot path mode dest))) w
      (run (.packageStream slot path mode dest) w).2 := by
  show Notes (((w.packageIn? slot).bind fun p => p.misuse? mode.access).or
    ((w.packageIn? slot).bind fun p => p.unreached? (w.isAttached p) path)) w _
  rw [← bind_or_eq]
  refine withPackage_notes fun _ p _ => ?_
  cases mode with
  | filtered ranged =>
    exact (Notes.through (p.openStream_remarking (w.isAttached p) path ranged) w).before
      (storeStream_notes (w := (through (p.openStream (w.isAttached p) path ranged) w).2) hw dest _)
  | raw =>
    exact (Notes.through (p.openRawStream_remarking (w.isAttached p) path) w).before
      (storeStream_notes (w := (through (p.openRawStream (w.isAttached p) path) w).2) hw dest _)

theorem runFetch_notes (hw : w.FetchesFresh) (op : FetchOp) :
    Notes (w.unreached? (.fetch slot op)) w (runFetch slot op w).2 := by
  refine withFetch_notes fun f p hf => ?_
  have hrun := Notes.through (FetchOp.run_remarking (hw slot f hf) p (w.isAttached p) op) w
  exact hrun.before (.same rfl rfl)

theorem runHandOver_notes (hw : w.FetchesFresh) (ranged : Bool) :
    Notes (w.unreached? (.handOver slot ranged dest)) w (runHandOver slot ranged dest w).2 := by
  refine withFetch_notes fun f p hf => ?_
  have hrun := Notes.through (f.handOver_remarking p (w.isAttached p) (hw slot f hf) ranged) w
  have hfresh := (f.handOver_remarking p (w.isAttached p) (hw slot f hf) ranged w.gateway).2
  rw [get_bind_apply, bind_apply]
  refine hrun.before ?_
  change (through (f.handOver p (w.isAttached p) ranged) w).1.2.Fresh at hfresh
  have hslots := through_slots (f.handOver p (w.isAttached p) ranged) w
  generalize through (f.handOver p (w.isAttached p) ranged) w = r at hfresh hslots ⊢
  obtain ⟨⟨s, f'⟩, w1⟩ := r
  have hupdate : Notes none w1 (update slot (.fetch f') w1).2 := .same rfl rfl
  refine hupdate.before (storeStream_notes ?_ dest s)
  -- the fetch that is put back holds no closed stream either
  intro m x hx
  change (w1.slots.insert slot (.fetch f'))[m]? = _ at hx
  rw [Std.ExtTreeMap.getElem?_insert] at hx
  split at hx
  · cases hx
    exact hfresh
  · exact hw m x (hslots ▸ hx)

theorem runStream_notes (op : StreamOp) :
    Notes (w.misuse? (.stream slot op)) w (runStream slot op w).2 := by
  refine withStream_notes fun s => ?_
  exact (Notes.through (StreamOp.run_remarking s op) w).before (.same rfl rfl)

theorem rawStream_notes (hw : w.FetchesFresh) (path : String) :
    Notes (w.misuse? (.rawStream slot path dest)) w (run (.rawStream slot path dest) w).2 := by
  refine withContainer_notes fun _ c _ => ?_
  exact (Notes.through (c.rawStream_remarking path) w).before
    (storeStream_notes (w := (through (c.rawStream path) w).2) hw dest _)

/-- A package is attached to a container that nothing else owns; one that is
attached already is reported. -/
theorem runAddPackage_notes (container package : String) :
    Notes (w.misuse? (.addPackage container package)) w (runAddPackage container package w).2 := by
  refine withContainer_notes fun id c hc => withPackage_notes fun k p hp => ?_
  rw [get_bind_apply]
  split
  · exact addPackage_notes hc hp
  · exact .refl w

theorem runOpen_remarks (hw : w.FetchesFresh) (path : String) (config : Config) :
    w.gateway.Remarks none (runOpen path config dest w).2.gateway := by
  obtain ⟨hopen, hslots⟩ := openContainer_remarks path config w
  unfold runOpen
  rw [bind_apply]
  generalize openContainer path config w = r at hopen hslots ⊢
  obtain ⟨_ | id, w1⟩ := r
  · exact hopen
  dsimp only
  rw [get_bind_apply]
  cases w1.containers.get? id with
  | none => exact hopen
  | some c =>
    refine hopen.before (store_notes ?_ dest _).remarks
    intro m f hf
    exact hw m f (hslots ▸ hf)

theorem loadPackage_remarks (hw : w.FetchesFresh) (h : Handle) (config : Config) :
    w.gateway.Remarks none (run (.loadPackage h config dest) w).2.gateway := by
  have hload := Notes.through (Package.load_unremarked h config) w
  have hrun : run (.loadPackage h config dest) w = (do
      let id ← loadPackage h config
      store dest (.package id)
      pure (Answer.handle (some h)) : StateM Host Answer) w := rfl
  rw [hrun]
  unfold loadPackage
  simp only [bind_apply, get_apply, set_apply, pure_apply]
  have hslots := through_slots (Package.load h config) w
  generalize through (Package.load h config) w = r at hload hslots ⊢
  obtain ⟨p, w1⟩ := r
  refine hload.remarks.before
    (store_notes (w := { w1 with packages := (w1.packages.add p).2 }) ?_ dest _).remarks
  intro m f hf
  exact hw m f (hslots ▸ hf)

/-! ## §3. Every command. -/

/-- A command that makes no packages makes the remark that its misuse asks for,
or that its package's container is not there. -/
theorem run_notes (hw : w.FetchesFresh) (c : Command) (hl : c.isLoose = false)
    (ho : c.opens = false) : Notes ((w.misuse? c).or (w.unreached? c)) w (run c w).2 := by
  cases c with
  | openContainer | loadPackage => exact absurd ho (by simp [Command.opens])
  | owned => exact absurd hl (by simp [Command.isLoose])
  | register | inject => exact .same rfl rfl
  | lastHint | released => exact .refl w
  | engine q => exact runRequest_discreet q w
  | notifier op => exact runNotifier_discreet op w
  | writeFile file bytes =>
    show Notes none w (((get : StateM Host Host) >>= _) w).2
    rw [get_bind_apply]
    cases w.files.write file bytes with
    | error e => exact .refl w
    | ok files => exact .same rfl rfl
  | showFile file =>
    show Notes none w (((get : StateM Host Host) >>= _) w).2
    rw [get_bind_apply]
    cases w.files.read file <;> exact .refl w
  | drop slot => exact clear_notes hw slot
  | own h kind dest => exact store_notes hw dest _
  | container slot op =>
    show Notes ((w.misuse? _).or none) w _
    rw [Option.or_none]
    exact runContainer_notes op
  | rawStream slot path dest =>
    show Notes ((w.misuse? _).or none) w _
    rw [Option.or_none]
    exact rawStream_notes hw path
  | addPackage container package =>
    show Notes ((w.misuse? _).or none) w _
    rw [Option.or_none]
    exact runAddPackage_notes container package
  | selectPackage slot index dest => exact runSelect_notes hw index
  | package slot op => exact runPackage_notes op
  | packageStream slot path mode dest => exact packageStream_notes hw path mode
  | fetchResource slot path raw dest =>
    exact withPackage_keeps (.refl w) fun _ _ _ _ => store_notes hw dest _
  | fetchInfo slot => exact withFetch_keeps (.refl w) fun _ _ _ _ => .refl w
  | fetch slot op => exact runFetch_notes hw op
  | handOver slot ranged dest => exact runHandOver_notes hw ranged
  | stream slot op =>
    show Notes ((w.misuse? _).or none) w _
    rw [Option.or_none]
    exact runStream_notes op
  | streamInfo slot => exact withStream_keeps (.refl w) fun _ _ => .refl w
  | newLibrary dest => exact store_notes hw dest _
  | loadLibrary file dest => exact runLoadLibrary_notes hw file
  | saveLibrary slot file =>
    refine withLibrary_quiet fun l => ?_
    refine Along.bind (notes_inward.saveLibrary l file) (fun r => ?_) w
    cases r <;> exact .pure _
  | addToLibrary slot other =>
    refine withLibrary_quiet fun l => withContainer_quiet fun id _ _ => ?_
    exact notes_inward.addToLibrary slot l id w
  | library slot query =>
    refine withLibrary_quiet fun l => ?_
    rw [get_bind_apply]
    cases query <;> exact .refl w
  | libraryPackage slot key dest => exact runLibraryPackage_notes hw key dest
  | closeLibrary slot => exact withLibrary_quiet fun l => notes_inward.closeLibrary slot l w

/-- **A command makes the remark that it is due**, and no other. -/
theorem run_remarks (hw : w.FetchesFresh) (c : Command) (hl : c.isLoose = false) :
    w.gateway.Remarks ((w.misuse? c).or (w.unreached? c)) (run c w).2.gateway := by
  by_cases ho : c.opens = false
  · exact (run_notes hw c hl ho).remarks
  · cases c with
    | openContainer path config dest => exact runOpen_remarks hw path config
    | loadPackage h config dest => exact loadPackage_remarks hw h config
    | _ => exact absurd rfl ho

end Host

end EpubAccess
