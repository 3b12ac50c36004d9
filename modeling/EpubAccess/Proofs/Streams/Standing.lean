/-
  EpubAccess.Proofs.Streams.Standing
  ────────────────────────────────
  Streams in the slots of a host, while calls are refused.

  A host is fair if it goes through the library and prepares refusals at most
  (`Command.isFair`).  In a fair run every open stream that a slot holds agrees
  with the engine's cursor, and every stream that a fetch holds stands at its
  start (`Host.Standing`).  One command keeps this (`Host.Standing.run`): the
  slots that it does not name are left alone, and those that it names hold
  what was just opened, just moved, or no stream.

  So whatever calls are refused, every operation of an open stream leaves the
  stream and the engine in step (`Host.refused_moves_keep_step`).
-/
import EpubAccess.Proofs.Fetches.Apart
import EpubAccess.Proofs.Ownership.Runs
import EpubAccess.Proofs.Streams.Refusals
import EpubAccess.Proofs.Streams.Sources

namespace EpubAccess

open Stateful Gateway

/-! ## §1. Refusals. -/

/-- Is the fault a refusal? -/
def Fault.refuses : Fault → Bool
  | .refuseOpen | .refuseOpenStream | .refuseOpenRawStream | .refuseRawContainerStream => true
  | .failSkip _ | .failMark _ | .failReset _ | .answerReadRange (.error _) => true
  | _ => false

/-- Does the command go through the library, and prepare refusals at most? -/
def Command.isFair : Command → Bool
  | .inject fault => fault.refuses
  | c => !c.isDirect

theorem Command.isDirect_of_isFair {c : Command} (h : c.isFair = true) : c.isDirect = false := by
  cases c <;> first | rfl | exact absurd h (by simp [isFair, isDirect])

/-- One more refusal. -/
theorem Faults.Refusing.add {q : Faults} (hq : q.Refusing) {f : Fault} (hf : f.refuses = true) :
    (q.add f).Refusing := by
  cases f with
  | answerReadRange r =>
    cases r with
    | ok b => exact absurd hf (by simp [Fault.refuses])
    | error e =>
      refine ⟨fun x hx => ?_, hq.readBytes, hq.readAll, hq.available⟩
      rcases List.mem_append.mp hx with hx | hx
      · exact hq.readRange x hx
      · exact ⟨e, List.mem_singleton.mp hx⟩
  | answerReadBytes b => exact absurd hf (by simp [Fault.refuses])
  | answerReadAll b => exact absurd hf (by simp [Fault.refuses])
  | answerAvailable n => exact absurd hf (by simp [Fault.refuses])
  | answerProbeSize n => exact absurd hf (by simp [Fault.refuses])
  | _ => exact ⟨hq.readRange, hq.readBytes, hq.readAll, hq.available⟩

namespace Host

variable {w w' w'' : Host} {m slot dest : String}

/-- If the faults that wait refuse at most, they still do. -/
def StillRefusing (w w' : Host) : Prop := w.gateway.faults.Refusing → w'.gateway.faults.Refusing

instance : IsPreorder Host StillRefusing where
  refl _ := id
  trans _ _ _ h h' := h' ∘ h

theorem StillRefusing.same (h : w'.gateway.faults = w.gateway.faults) : StillRefusing w w' :=
  fun hq => h ▸ hq

theorem through_stillRefusing {α : Type} {post : α → Prop} {m : StateM Gateway α}
    (hm : Gateway.Forward post m) : Along StillRefusing (through m) :=
  fun w => (hm w.gateway).1.refusing

/-- A request for a navigation table uses no fault up. -/
theorem navigation_faults (p : Package) (kind : NavKind) (g : Gateway) :
    (p.navigation kind g).2.faults = g.faults := by
  unfold Package.navigation Package.live
  cases p.handle.get? with
  | none => rfl
  | some h =>
    dsimp only
    rw [bind_apply, pure_apply]
    dsimp only
    cases p.navigationCache kind <;> rfl

theorem stillRefusing_gatewise : Gatewise StillRefusing where
  through := through_stillRefusing
  navigation p kind w := .same (navigation_faults p kind w.gateway)
  rest _ _ hg := .same (congrArg Gateway.faults hg)

/-- **Faults that refuse at most stay so** in a fair run. -/
theorem run_stillRefusing {c : Command} (hc : c.isFair = true) : Along StillRefusing (run c) := by
  intro w
  cases c with
  | inject fault => exact fun hq => hq.add hc
  | register path archive => exact .same rfl
  | engine r => exact absurd hc (by simp [Command.isFair, Command.isDirect])
  | openContainer path config dest =>
    exact stillRefusing_gatewise.slotwise.runOpen
      (stillRefusing_gatewise.poolwise.openContainer path config) w
  | loadPackage h config dest => exact absurd hc (by simp [Command.isFair, Command.isDirect])
  | _ => exact stillRefusing_gatewise.slotwise.run _ rfl w

end Host

/-! ## §2. What stands. -/

/-- A stream at its start agrees with the cursor behind it. -/
theorem ContentStream.AtStart.agrees {e : Engine} {s : ContentStream} (h : s.AtStart True e) :
    ∃ r, s.Agrees e r := by
  let g : Gateway := { Gateway.fresh with engine := e }
  obtain ⟨c, -, hfollows⟩ := ContentStream.AtStart.follows (g := g) h rfl
  exact ⟨_, hfollows.agrees⟩

/-- The stream that is held agrees with the engine while it is open; one that a
fetch holds stands at its start. -/
def Holding.Stands (e : Engine) : Holding → Prop
  | .stream s => s.handle.released = false → ∃ r, s.Agrees e r
  | .fetch f => f.Ready True e
  | _ => True

/-- What stands stays so while the stream that is held is left alone. -/
theorem Holding.Stands.mono {e e' : Engine} {o : Holding} (h : o.Stands e)
    (hl : ∀ x, o.handle? = some x → e'.live[x.handle]? = e.live[x.handle]?) : o.Stands e' := by
  cases o with
  | stream s =>
    intro hr
    obtain ⟨r, hagrees⟩ := h hr
    exact ⟨r, hagrees.stayed (hl s.handle rfl)⟩
  | fetch f => exact Fetch.Ready.mono h hl
  | _ => trivial

namespace Host

variable {w w' : Host} {m slot dest : String} {T : String → Prop} {n : Nat} {d : Debts}

/-- What the slots hold stands. -/
def AllStand (w : Host) : Prop :=
  ∀ (m : String) o, w.slots[m]? = some o → o.Stands w.gateway.engine

/-- Slots outside `T` were left alone. -/
theorem AllStand.reach (h : AllStand w) (hr : Reaches False T n w w' d)
    (hself : ∀ m, T m → ∀ o, w'.slots[m]? = some o → o.Stands w'.gateway.engine) : AllStand w' := by
  intro m o ho
  obtain ⟨new, hev⟩ := hr.evolves
  by_cases hm : T m
  · exact hself m hm o ho
  · have hold := (hev.slots m hm).symm.trans ho
    exact (h m o hold).mono fun x hx => hev.live m hm x ((held_slot hold).trans hx)

theorem AllStand.untouched (h : AllStand w) (hr : Reaches False (fun _ => False) n w w' d) :
    AllStand w' :=
  h.reach hr fun _ hm => hm.elim

/-- Something that stands put into a slot. -/
theorem AllStand.store (h : AllStand w) {o : Holding} {cs : List ContainerId}
    (hw : Sound False w ⟨o.handles ++ [], cs, [], []⟩) (hfit : Fits False w.gateway.engine o)
    (hcs : ∀ id ∈ cs, id ∈ o.containers) (ho : o.Stands w.gateway.engine) :
    AllStand (store dest o w).2 := by
  have hcontainers : ∀ id ∈ cs, id ∈ o.containers ∨ id ∈ [] := fun id hid => .inl (hcs id hid)
  have hpackages : ∀ k ∈ ([] : List PackageId), k ∈ o.packages ∨ k ∈ [] := by
    simp
  have hreach : Reaches False (· = dest) 0 w (Host.store dest o w).2 .none :=
    store_reaches hw rfl hfit hcontainers hpackages
  obtain ⟨hslot, hlive⟩ := store_stored (m := dest) hw hfit hcontainers hpackages
  refine h.reach hreach ?_
  rintro _ rfl o' ho'
  obtain rfl := Option.some.inj (hslot.symm.trans ho')
  exact ho.mono hlive

/-- An object without a stream put into a slot. -/
theorem AllStand.storeQuiet (h : AllStand w) {o : Holding} (hw : Sound False w .none)
    (hfit : Fits False w.gateway.engine o) (hh : o.handle? = none)
    (ho : o.Stands w.gateway.engine) :
    AllStand (Host.store dest o w).2 := by
  have hw' : Sound False w ⟨o.handles ++ [], [], [], []⟩ := by
    rw [Holding.handles, hh]
    exact hw
  exact h.store hw' hfit (by simp) ho

/-- A stream at its start put into a slot. -/
theorem AllStand.storeStream (h : AllStand w) {s? : Option ContentStream}
    (hw : Sound False w ⟨s?.toList.map ContentStream.handle, [], [], []⟩)
    (hs : ∀ s, s? = some s → s.AtStart True w.gateway.engine) :
    AllStand (storeStream dest s? w).2 := by
  cases s? with
  | none => exact h
  | some s =>
    have hstart := hs s rfl
    have hkind : s.handle.kind = .stream := by
      rw [hstart.handle]
      rfl
    have hw' : Sound False w ⟨(Holding.stream s).handles ++ [], [], [], []⟩ := hw
    exact h.store hw' (.stream _ hkind) (by simp) fun _ => hstart.agrees

/-- What an opening gives put into a slot. -/
theorem AllStand.openInto (h : AllStand w) (hq : w.gateway.faults.Refusing)
    {m : StateM Gateway (Option ContentStream)} {found : Option Cursor} {cap : UInt64}
    (hw : Sound False w .none)
    (hm : Opened w.held [] found cap w.gateway (m w.gateway).1 (m w.gateway).2)
    (hstart : ∀ c, found = some c → c.position = 0 ∧ c.mark = 0) :
    AllStand (Host.storeStream dest (m w.gateway).1 { w with gateway := (m w.gateway).2 }).2 := by
  have hmoved := hm.moved
  rw [List.append_nil] at hmoved
  have hgate := Reaches.gateway (T := fun _ => False) hw hmoved
  refine (h.untouched hgate).storeStream hgate.sound fun s hs => ?_
  rw [hs] at hm
  exact hm.atStart (fun _ => hq) hstart

/-- A slot without an open stream in a sound host holds nothing that could
disagree. -/
theorem Sound.stands_of_quiet (hw : Sound False w d) {o : Holding} (ho : w.slots[m]? = some o)
    (hquiet : w.openAt m = none) : o.Stands w.gateway.engine := by
  rw [openAt_of_slot ho] at hquiet
  cases o with
  | stream s =>
    intro hr
    have hopen : s.handle.get? = some s.handle.handle := OwnedHandle.get?_eq_some hr
    exact absurd (hopen.symm.trans hquiet) (by simp)
  | fetch f =>
    intro s hs
    have hopen : s.handle.get? = some s.handle.handle := by
      rw [((hw.fetches m f ho) s hs).handle]
      rfl
    have hheld := Fetch.openHandle?_of_some hs
    exact absurd ((hheld.trans hopen).symm.trans hquiet) (by simp)
  | _ => trivial

/-! ## §3. Commands that write a slot. -/

variable (hw : Sound False w .none) (h : AllStand w)

include hw h

theorem drop_allStand (slot : String) : AllStand (run (.drop slot) w).2 := by
  refine h.reach (clear_reaches (T := (· = slot)) slot hw rfl) fun m hm o ho => ?_
  have hempty : (clear slot w).2.slots[m]? = none := by
    rw [clear_slots slot hw, if_pos hm]
  exact absurd (hempty.symm.trans ho) (by simp)

theorem runOpen_allStand (path : String) (config : Config) :
    AllStand (runOpen path config dest w).2 := by
  unfold runOpen
  rw [bind_apply]
  rcases openContainer_reaches (T := fun _ => False) path config hw with
    ⟨⟨e, he⟩, hstep⟩ | ⟨id, he, hstep⟩
  · rw [he]
    exact h.untouched hstep
  · rw [he]
    have hopened := h.untouched hstep
    generalize (openContainer path config w).2 = w1 at hstep hopened ⊢
    dsimp only
    rw [get_bind_apply]
    cases w1.containers.get? id with
    | none => exact hopened
    | some c =>
      have hfit : Fits False w1.gateway.engine (.container id) :=
        ⟨fun _ h => absurd h (by simp), fun _ h => absurd h (by simp [Holding.handle?]),
          fun _ h => absurd h (by simp)⟩
      have hsound : Sound False w1 ⟨(Holding.container id).handles ++ [], [id], [], []⟩ :=
        hstep.sound
      exact hopened.store hsound hfit (fun j hj => hj) trivial

theorem runSelect_allStand (index : Option Nat) : AllStand (runSelect slot index dest w).2 :=
  runSelect_keeps h fun _ _ k _ _ => h.storeQuiet hw (.package _ k) rfl trivial

theorem fetchResource_allStand (path : String) (raw : Bool) :
    AllStand (run (.fetchResource slot path raw dest) w).2 := by
  refine withPackage_keeps h fun k _ _ _ => ?_
  have hready : ∀ calm : Prop, (Fetch.start k path raw).Ready calm w.gateway.engine :=
    fun _ _ hs => absurd hs (by simp [Fetch.start])
  exact h.storeQuiet hw (.fetch _ (hready False)) rfl (hready True)

theorem loadLibrary_allStand (file : String) : AllStand (run (.loadLibrary file dest) w).2 := by
  have hload := readLibrary_reaches (T := fun _ => False) file hw
  have hloaded := h.untouched hload
  show AllStand ((loadLibrary file >>= _) w).2
  rw [bind_apply]
  generalize loadLibrary file w = r at hload hloaded ⊢
  obtain ⟨_ | l, w1⟩ := r
  · exact hloaded
  · exact hloaded.storeQuiet hload.sound (.library _ l) rfl trivial

theorem runLibraryPackage_allStand (key : PackageKey) (dest : Option String) :
    AllStand (runLibraryPackage slot key dest w).2 := by
  refine withLibrary_keeps h fun l _ => ?_
  rw [get_bind_apply]
  cases findPackage l key with
  | none => exact h
  | some k =>
    cases dest with
    | none => exact h
    | some dest => exact h.storeQuiet hw (.package _ k) rfl trivial

/-- A command that is quiet brings no stream into a slot that held none. -/
theorem quiet_allStand {c : Command} (hd : c.isDirect = false) (hquiet : c.isQuiet = true)
    (hc : ∀ m ∈ c.writes, w.openAt m = none) : AllStand (run c w).2 := by
  have hrun := run_reaches c hd (fun hcalm => hcalm.elim) hw
  refine h.reach hrun fun m hm o ho => hrun.sound.stands_of_quiet ho ?_
  rcases (tidy_outward.run c hquiet w).slots m with hsame | hnone
  · exact hsame.trans (hc m hm)
  · exact hnone

/-! ## §4. Commands about streams. -/

variable (hq : w.gateway.faults.Refusing)

include hq

theorem rawStream_allStand (path : String) : AllStand (run (.rawStream slot path dest) w).2 := by
  refine withContainer_keeps h fun id c _ hc => ?_
  obtain ⟨hheld, hkind⟩ := hw.held_container hc
  exact h.openInto hq hw (Container.rawStream_opened hw.ledger hheld hkind path) fun _ hc =>
    Container.source?_start hc

theorem packageStream_allStand (path : String) (mode : StreamMode) :
    AllStand (run (.packageStream slot path mode dest) w).2 := by
  refine withPackage_keeps h fun k p _ hp => ?_
  obtain ⟨hheld, hkind⟩ := hw.held_package hp
  cases mode with
  | filtered ranged =>
    exact h.openInto hq hw
      (Package.openStream_opened hw.ledger hheld hkind (w.isAttached p) path ranged)
      fun _ hc => Package.source?_start hc
  | raw =>
    exact h.openInto hq hw
      (Package.openRawStream_opened hw.ledger hheld hkind (w.isAttached p) path false)
      fun _ hc => Package.source?_start hc

theorem runFetch_allStand (op : FetchOp) : AllStand (runFetch slot op w).2 := by
  refine withFetch_keeps h fun f p ho hp => ?_
  obtain ⟨hheld, hkind⟩ := hw.held_package hp
  have hledger := (Reaches.takeOut (T := (· = slot)) hw rfl ho).sound.ledger
  rw [Holding.handles_fetch] at hledger
  have hready : f.Ready True w.gateway.engine := h slot _ ho
  have hkept := Fetch.run_kept (i := Place.package f.package) hledger hheld hkind (fun _ => hq)
    hready (w.isAttached p) op
  have hreach := runFetch_reaches (T := (· = slot)) op hw rfl
  unfold runFetch at hreach
  rw [withFetch_some ho hp] at hreach
  refine h.reach hreach ?_
  rintro _ rfl o ho'
  obtain rfl := Option.some.inj ((insert_self _ _ _).symm.trans ho')
  exact hkept.ready

theorem runHandOver_allStand (ranged : Bool) : AllStand (runHandOver slot ranged dest w).2 := by
  refine withFetch_keeps h fun f p ho hp => ?_
  obtain ⟨hheld, hkind⟩ := hw.held_package hp
  have hledger := (Reaches.takeOut (T := (· = slot)) hw rfl ho).sound.ledger
  rw [Holding.handles_fetch] at hledger
  have hready : f.Ready True w.gateway.engine := h slot _ ho
  obtain ⟨-, hnone, -, hstart⟩ := Fetch.handOver_kept (i := Place.package f.package) hledger hheld
    hkind (fun _ => hq) hready (w.isAttached p) ranged
  obtain ⟨hact, -⟩ := handOver_reaches (T := (· = slot)) ranged hw rfl ho hp
  -- the fetch is left without a stream, and then the stream is stored
  have hleft : AllStand { w with
      gateway := (f.handOver p (w.isAttached p) ranged w.gateway).2
      slots :=
        w.slots.insert slot (.fetch (f.handOver p (w.isAttached p) ranged w.gateway).1.2) } := by
    refine h.reach hact ?_
    rintro _ rfl o ho'
    obtain rfl := Option.some.inj ((insert_self _ _ _).symm.trans ho')
    intro s hs
    exact absurd (hnone.symm.trans hs) (by simp)
  exact hleft.storeStream hact.sound hstart

theorem runStream_allStand (op : StreamOp) : AllStand (runStream slot op w).2 := by
  refine withStream_keeps h fun s ho => ?_
  have hreach := runStream_reaches (T := (· = slot)) op hw rfl
  unfold runStream at hreach
  rw [withStream_some ho] at hreach
  refine h.reach hreach ?_
  rintro _ rfl o ho'
  obtain rfl := Option.some.inj ((insert_self _ _ _).symm.trans ho')
  intro hr
  change (op.run s w.gateway).1.2.handle.released = false at hr
  cases hop : op.closes with
  | true =>
    cases op <;> simp only [StreamOp.closes, Bool.false_eq_true] at hop
    have hopen := OwnedHandle.get?_eq_some hr
    exact absurd ((s.close_get? w.gateway).symm.trans hopen) (by simp)
  | false =>
    rw [(StreamOp.run_remarking s op w.gateway).2 hop] at hr
    obtain ⟨r, hagrees⟩ := h _ _ ho hr
    obtain ⟨a, r', hend, -⟩ := StreamOp.run_ends hagrees hq op hop
    exact ⟨r', hend.agrees⟩

/-! ## §5. Every command. -/

omit hq in
/-- A command that names no slot leaves all of them alone. -/
theorem elsewhere_allStand {c : Command} (hd : c.isDirect = false) (hc : c.writes = []) :
    AllStand (run c w).2 := by
  have hrun := run_reaches c hd (fun hcalm => hcalm.elim) hw
  exact h.reach hrun fun m hm => absurd (hc ▸ hm) List.not_mem_nil

/-- What the slots hold stands after a command too, if faults refuse at most. -/
theorem run_allStand {c : Command} (hd : c.isDirect = false) : AllStand (run c w).2 := by
  have hlibrary : ∀ slot, (∃ l, w.slots[slot]? = some (.library l)) →
      ∀ m ∈ [slot], w.openAt m = none := by
    rintro slot ⟨l, hl⟩ m hm
    rw [List.mem_singleton.mp hm, openAt_of_slot hl]
    rfl
  cases c with
  | engine r => exact absurd hd (by simp [Command.isDirect])
  | own x kind dest => exact absurd hd (by simp [Command.isDirect])
  | loadPackage x config dest => exact absurd hd (by simp [Command.isDirect])
  | drop slot => exact drop_allStand hw h slot
  | owned slot op =>
    have hnone : ∀ x, w.slots[slot]? ≠ some (.owned x) := hw.slots slot
    cases op <;> exact withOwned_keeps h fun x ho => absurd ho (hnone x)
  | openContainer path config dest => exact runOpen_allStand hw h path config
  | rawStream slot path dest => exact rawStream_allStand hw h hq path
  | selectPackage slot index dest => exact runSelect_allStand hw h index
  | packageStream slot path mode dest => exact packageStream_allStand hw h hq path mode
  | fetchResource slot path raw dest => exact fetchResource_allStand hw h path raw
  | fetch slot op => exact runFetch_allStand hw h hq op
  | handOver slot ranged dest => exact runHandOver_allStand hw h hq ranged
  | stream slot op => exact runStream_allStand hw h hq op
  | newLibrary dest => exact h.storeQuiet hw (.library _ _) rfl trivial
  | loadLibrary file dest => exact loadLibrary_allStand hw h file
  | addToLibrary slot container =>
    by_cases hl : ∃ l, w.slots[slot]? = some (.library l)
    · exact quiet_allStand hw h hd rfl (hlibrary slot hl)
    · exact withLibrary_keeps h fun l ho => absurd ⟨l, ho⟩ hl
  | libraryPackage slot key dest => exact runLibraryPackage_allStand hw h key dest
  | closeLibrary slot =>
    by_cases hl : ∃ l, w.slots[slot]? = some (.library l)
    · exact quiet_allStand hw h hd rfl (hlibrary slot hl)
    · exact withLibrary_keeps h fun l ho => absurd ⟨l, ho⟩ hl
  | _ => exact elsewhere_allStand hw h hd rfl

omit hw h hq

/-- A host that is sound, whose faults refuse at most, and whose slots hold what
stands. -/
structure Standing (w : Host) : Prop where
  sound : Sound False w .none
  refusing : w.gateway.faults.Refusing
  slots : AllStand w

theorem Standing.fresh : Standing fresh :=
  ⟨.fresh False, .none, fun m o ho => absurd ho (by simp [Host.fresh])⟩

/-- **A fair command keeps what stands.** -/
theorem Standing.run (h : Standing w) {c : Command} (hc : c.isFair = true) :
    Standing (run c w).2 := by
  have hd := Command.isDirect_of_isFair hc
  exact ⟨(run_reaches c hd (fun hcalm => hcalm.elim) h.sound).sound,
    run_stillRefusing hc w h.refusing, run_allStand h.sound h.slots h.refusing hd⟩

theorem standing_after {cs : List Command} (hc : ∀ c ∈ cs, c.isFair = true) (h : Standing w) :
    Standing (after cs w) := by
  induction cs generalizing w with
  | nil => exact h
  | cons c cs ih =>
    rw [after_cons]
    exact ih (fun d hd => hc d (List.mem_cons_of_mem _ hd)) (h.run (hc c (List.mem_cons_self ..)))

/-- An open stream in a slot agrees with the engine. -/
theorem Standing.agrees (h : Standing w) {s : ContentStream}
    (hs : w.slots[slot]? = some (.stream s)) (hopen : s.isClosed = false) :
    ∃ r, s.Agrees w.gateway.engine r :=
  h.slots slot _ hs hopen

/-! ## §6. In step. -/

/-- The stream that a slot holds. -/
def streamAt? (w : Host) (slot : String) : Option ContentStream :=
  match w.slots[slot]? with
  | some (.stream s) => some s
  | _ => none

/-- The engine's cursor behind a stream. -/
def cursor? (w : Host) (s : ContentStream) : Option Cursor :=
  match w.gateway.engine.live[s.handle.handle]? with
  | some (.stream c) => some c
  | _ => none

/-- The slot holds the stream, whose position and mark are those of the
engine's cursor behind it. -/
structure InStep (w : Host) (slot : String) (s : ContentStream) (c : Cursor) : Prop where
  slot : w.streamAt? slot = some s
  isOpen : s.isClosed = false
  cursor : w.cursor? s = some c
  position : s.position.toNat = c.position
  mark : s.mark.toNat = c.mark

theorem slot_of_streamAt? {s : ContentStream} (h : w.streamAt? slot = some s) :
    w.slots[slot]? = some (.stream s) := by
  unfold streamAt? at h
  split at h
  · next ho =>
    rw [ho, ← Option.some.inj h]
  · exact absurd h (by simp)

theorem InStep.of_agrees {s : ContentStream} {r : PlainCursor}
    (hs : w.slots[slot]? = some (.stream s))
    (h : s.Agrees w.gateway.engine r) : InStep w slot s r.behind := by
  refine ⟨?_, h.isOpen, ?_, h.position, h.mark⟩
  · unfold streamAt?
    rw [hs]
  · unfold cursor?
    rw [h.cursor]

end Host

/-- The plain cursor that stands where the engine's cursor stands. -/
def PlainCursor.over (c : Cursor) (cap : UInt64) : PlainCursor :=
  { contents := c.contents
    seekable := c.seekable
    ranged := c.ranged
    cap := cap.toNat
    position := c.position
    mark := c.mark }

namespace ContentStream

variable {e e' : Engine} {s s' : ContentStream} {r r' : PlainCursor}

/-- The plain cursor is the one over the engine's. -/
theorem Agrees.over (h : s.Agrees e r) : PlainCursor.over r.behind s.maxReadAll = r := by
  unfold PlainCursor.over
  rw [h.cap]
  rfl

/-- Where the same stream stands is told by the plain cursor. -/
theorem Agrees.placed (h : s.Agrees e r) (h' : s'.Agrees e' r') (hsame : s.SameStream s')
    (hmark : r'.mark = r.mark) : s' = { s with position := .ofNat r'.position } := by
  have hposition : UInt64.ofNat r'.position = s'.position := ofNat_of_toNat h'.position
  have hmarks : s'.mark = s.mark := by
    rw [← UInt64.toNat_inj, h'.mark, h.mark, hmark]
  obtain ⟨hhandle, hpath, hlength, hcap⟩ := hsame
  cases s
  cases s'
  simp_all

/-- What is behind an open stream is a stream. -/
theorem Agrees.serves {g : Gateway} (h : s.Agrees g.engine r) : g.Serves .stream s.handle.get? := by
  intro x hx
  rw [OwnedHandle.get?_eq_some h.isOpen] at hx
  rw [← Option.some.inj hx, h.cursor]
  rfl

end ContentStream

namespace Host

variable {w : Host} {slot : String}

/-- **Refused moves keep streams in step.**  Take any fair run, whatever
refusals it prepared, and any open stream that a slot holds then.  Its position
and mark are those of the engine's cursor, and so they are after any operation
but closing.  If the operation is not refused, it answers and moves as the plain
cursor that stands there.  If it ends with an error, nothing moved, unless it
rewound the stream and was then refused to skip; then both are at the start, and
the marks are as they were. -/
theorem refused_moves_keep_step (cs : List Command) (hcs : ∀ c ∈ cs, c.isFair = true)
    (slot : String) (s : ContentStream) (hs : (after cs fresh).streamAt? slot = some s)
    (hopen : s.isClosed = false) (op : StreamOp) (hop : op.closes = false) :
    let w := after cs fresh
    let w' := (run (.stream slot op) w).2
    ∃ c reply s' c', InStep w slot s c
      ∧ (run (.stream slot op) w).1 = .streamReply reply s'
      ∧ InStep w' slot s' c'
      ∧ (reply.isError = false → reply = ((PlainCursor.over c s.maxReadAll).answer op).1
          ∧ c' = ((PlainCursor.over c s.maxReadAll).answer op).2.behind)
      ∧ (reply.isError = true → ¬ op.Strands s w.gateway → s' = s ∧ c' = c)
      ∧ (op.Strands s w.gateway → reply.isError = true
          ∧ s' = { s with position := 0 } ∧ c' = { c with position := 0 }) := by
  intro w w'
  have hw : Standing w := standing_after hcs .fresh
  have hslot := slot_of_streamAt? hs
  obtain ⟨r, hagrees⟩ := hw.agrees hslot hopen
  obtain ⟨a, r', ⟨ha, hagrees', -⟩, haccepted, hrefused, hstranded⟩ :=
    StreamOp.run_ends hagrees hw.refusing op hop
  have hrun := run_stream hslot op
  have hsame := (StreamOp.run_local s op hop w.gateway hagrees.serves).2
  refine ⟨r.behind, a, (op.run s w.gateway).1.2, r'.behind, .of_agrees hslot hagrees, ?_,
    ?_, ?_, ?_, ?_⟩
  · rw [hrun, ← ha]
  · show InStep (run (.stream slot op) w).2 slot _ _
    rw [hrun]
    exact .of_agrees (insert_self _ _ _) hagrees'
  · intro hok
    have hanswer := haccepted hok
    rw [hagrees.over, ← hanswer]
    exact ⟨rfl, rfl⟩
  · intro herror hstrands
    obtain rfl := hrefused herror hstrands
    refine ⟨(hagrees.placed hagrees' hsame rfl).trans ?_, rfl⟩
    rw [ofNat_of_toNat hagrees.position]
  · intro hstrands
    obtain ⟨herror, rfl⟩ := hstranded hstrands
    exact ⟨herror, hagrees.placed hagrees' hsame rfl, rfl⟩

/-- A stream past the filters, moved by two bytes; the next skip will fail. -/
def sampleRefusal : List Command :=
  samplePreparation ++ [.packageStream "package" "text" .raw "stream", .stream "stream" (.skip 2),
    .inject (.failSkip (.failed "busy"))]

/-- The stream then. -/
def sampleMoved : ContentStream :=
  { handle := .take ⟨0x1003⟩ .stream
    path := "text"
    length := 3
    position := 2
    mark := 0
    maxReadAll := Config.default.maxReadAll }

/-- Seeking the second byte rewinds the stream, and leaves it at the start. -/
theorem refused_moves_keep_step_sample :
    (after sampleRefusal fresh).streamAt? "stream" = some sampleMoved
      ∧ StreamOp.Strands (.seek 1) sampleMoved (after sampleRefusal fresh).gateway
      ∧ ∃ reply s' c', (run (.stream "stream" (.seek 1)) (after sampleRefusal fresh)).1
            = .streamReply reply s'
          ∧ reply.isError = true ∧ s' = { sampleMoved with position := 0 }
          ∧ InStep (run (.stream "stream" (.seek 1)) (after sampleRefusal fresh)).2
            "stream" s' c' := by
  have hs : (after sampleRefusal fresh).streamAt? "stream" = some sampleMoved := by decide +kernel
  have hstrands : StreamOp.Strands (.seek 1) sampleMoved (after sampleRefusal fresh).gateway := by
    show ContentStream.Strands _ _ _
    unfold ContentStream.Strands
    decide +kernel
  obtain ⟨c, reply, s', c', -, hrun, hstep, -, -, hstranded⟩ :=
    refused_moves_keep_step sampleRefusal (by decide) "stream" sampleMoved hs rfl (.seek 1) rfl
  obtain ⟨herror, hs', -⟩ := hstranded hstrands
  exact ⟨hs, hstrands, reply, s', c', hrun, herror, hs', hstep⟩

end Host

end EpubAccess
