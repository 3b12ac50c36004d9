/-
  EpubAccess.Proofs.Walks
  ────────────────────────────────
  What goes on inside a host, and the relations that follow it.

  Much of what is proved about a host is a relation between the host and what
  becomes of it, wherever it starts; `Host.Along R m` says so of the work `m`.
  A relation that is a preorder is kept by sequencing, so it is enough to look
  at single steps.

  `Host.Inward R` lists the steps inside the library: packages closed with their
  container, containers replaced or given up, and objects that go away with
  their last owner.  Each of them asks first whether the object is open.
  `Host.Outward R` asks more: any work at the gateway but a request for a
  navigation table, and any object without an open stream put into a slot.
  Such a relation follows every command that opens nothing and uses no stream
  (`Host.Outward.run`).  A relation that does not look at the pools of objects
  follows containers and packages that are opened as well (`Host.Poolwise`), and
  one that does not look at the slots follows every command that works with what
  is there (`Host.Slotwise.run`); one that looks at the gateway alone is of both
  kinds (`Host.Gatewise`).
-/
import EpubAccess.Host.Opening
import EpubAccess.Proofs.Lifetimes.Forward
import EpubAccess.Proofs.Ownership.Places
import EpubAccess.Proofs.Slots
import Mathlib.Order.Defs.Unbundled

namespace EpubAccess

open Stateful Gateway

/-- Is the event about a container that comes or goes, or about a library? -/
def Event.isInside : Event → Bool
  | .containerClosed _ _ | .containerDropped _ | .containerReplaced _ | .packageWithoutId _ _
  | .libraryLoaded _ _ => true
  | _ => false

namespace Host

/-! ## §1. Work that leads along a relation. -/

/-- Work after which a host is related to what it was, wherever it starts. -/
def Along (R : Host → Host → Prop) {α : Type} (m : StateM Host α) : Prop := ∀ w, R w (m w).2

namespace Along

variable {R : Host → Host → Prop} [IsPreorder Host R] {α β : Type}

theorem pure (a : α) : Along R (pure a : StateM Host α) := refl_of R

theorem bind {m : StateM Host α} {f : α → StateM Host β} (hm : Along R m)
    (hf : ∀ a, Along R (f a)) : Along R (m >>= f) :=
  fun w => trans_of R (hm w) (hf (m w).1 (m w).2)

omit [IsPreorder Host R] in
/-- Work that looks at the state first. -/
theorem get_bind {f : Host → StateM Host β} (hf : ∀ w, R w (f w w).2) : Along R (get >>= f) := hf

omit [IsPreorder Host R] in
/-- Work that looks at the state first, and goes on in whatever state. -/
theorem look {f : Host → StateM Host β} (hf : ∀ w, Along R (f w)) : Along R (get >>= f) :=
  .get_bind fun w => hf w w

omit [IsPreorder Host R] in
theorem modify {f : Host → Host} (hf : ∀ w, R w (f w)) : Along R (modify f : StateM Host Unit) := hf

/-- Work done for every member of a list. -/
theorem forM_mem {f : α → StateM Host Unit} {xs : List α} (hf : ∀ a ∈ xs, Along R (f a)) :
    Along R (xs.forM f) := by
  induction xs with
  | nil => exact .pure _
  | cons x xs ih =>
    exact .bind (hf x (List.mem_cons_self ..)) fun _ => ih fun a ha =>
      hf a (List.mem_cons_of_mem _ ha)

theorem forM {f : α → StateM Host Unit} (hf : ∀ a, Along R (f a)) (xs : List α) :
    Along R (xs.forM f) :=
  .forM_mem fun a _ => hf a

end Along

/-! ## §2. Inside the library. -/

/-- A relation that allows the steps inside the library. -/
structure Inward (R : Host → Host → Prop) : Prop where
  emit : ∀ e : Event, e.isInside = true → Along R (through (Gateway.emit e))
  /-- The handle of a container is given back. -/
  release : ∀ x : OwnedHandle, x.released = false → Along R (through x.release)
  /-- The owner of a handle goes away. -/
  drop : ∀ x : OwnedHandle, Along R (through x.drop)
  closePackage : ∀ (w : Host) k p, w.packages.get? k = some p → p.isClosed = false →
    R w (closePackage k w).2
  removePackage : ∀ (w : Host) k, R w { w with packages := w.packages.remove k }
  library : ∀ slot l, Along R (update slot (.library l))
  /-- Whatever else changes, the gateway, the packages and the slots do not, and
  no container is added. -/
  rest : ∀ w w' : Host, w'.gateway = w.gateway → w'.packages = w.packages → w'.slots = w.slots →
    w'.containers.next = w.containers.next → R w w'

namespace Inward

variable {R : Host → Host → Prop} [IsPreorder Host R] (h : Inward R) {w : Host}

include h

theorem closePackageIfOpen (k : PackageId) : Along R (Host.closePackageIfOpen k) := by
  refine .get_bind fun w => ?_
  cases hp : w.packages.get? k with
  | none => exact refl_of R w
  | some p =>
    dsimp only
    cases hc : p.isClosed with
    | true => exact refl_of R w
    | false => exact h.closePackage w k p hp hc

theorem dropPackage (k : PackageId) : Along R (Host.dropPackage k) := by
  refine .get_bind fun w => ?_
  split
  · exact refl_of R w
  · cases w.packages.get? k with
    | none => exact refl_of R w
    | some p => exact trans_of R (h.removePackage w k) (h.drop p.handle _)

/-- A container is closed, and its packages with it. -/
theorem closeContainer {id : ContainerId} {c : Container} (hc : w.containers.get? id = some c)
    (hrelease : Along R (through c.handle.release)) : R w (Host.closeContainer id w).2 := by
  unfold Host.closeContainer
  rw [get_bind_apply, hc]
  refine Along.bind hrelease (fun r => ?_) w
  refine .bind (.modify fun w => h.rest _ _ rfl rfl rfl rfl) fun _ => ?_
  split
  · exact .bind (.forM h.closePackageIfOpen _) fun _ => .bind (h.emit _ rfl) fun _ => .pure _
  · exact .pure _

theorem closeContainerIfOpen (id : ContainerId) : Along R (Host.closeContainerIfOpen id) := by
  refine .get_bind fun w => ?_
  cases hc : w.containers.get? id with
  | none => exact refl_of R w
  | some c =>
    dsimp only
    cases hopen : c.isClosed with
    | true => exact refl_of R w
    | false => exact h.closeContainer hc (h.release c.handle hopen)

/-- A container that goes away is closed only if it is open. -/
theorem dropContainer (id : ContainerId) : Along R (Host.dropContainer id) := by
  refine .get_bind fun w => ?_
  split
  · exact refl_of R w
  · cases hc : w.containers.get? id with
    | none => exact refl_of R w
    | some c =>
      have hrest : Along R (do
          modify fun w : Host => { w with containers := w.containers.remove id }
          c.packages.forM Host.dropPackage : StateM Host Unit) :=
        .bind (.modify fun w => h.rest _ _ rfl rfl rfl rfl) fun _ => .forM h.dropPackage _
      dsimp only
      cases hopen : c.isClosed with
      | true => exact hrest w
      | false =>
        let reported := (through (Gateway.emit (.containerDropped c.path)) w).2
        have hemit : R w reported := h.emit (.containerDropped c.path) rfl w
        have hclose : R reported (Host.closeContainer id reported).2 :=
          h.closeContainer hc (h.release c.handle hopen)
        exact trans_of R (trans_of R hemit hclose) (hrest _)

/-- **What a slot held goes away**, whatever it was.  Of a fetch it is asked
that its stream may be closed. -/
theorem dropHolding {o : Holding} (hf : ∀ f, o = .fetch f → Along R (through f.close)) :
    Along R (Host.dropHolding o) := by
  cases o with
  | owned x => exact h.drop x
  | container id => exact h.dropContainer id
  | package k => exact h.dropPackage k
  | stream s => exact h.drop s.handle
  | fetch f => exact .bind (hf f rfl) fun _ => h.dropPackage f.package
  | library l =>
    exact .bind (.modify fun w => h.rest _ _ rfl rfl rfl rfl) fun _ =>
      .bind (.forM h.dropContainer _) fun _ => .forM h.dropPackage _

theorem retire (slot : String) (l : Library) (previous : ContainerId) :
    Along R (Host.retire slot l previous) := by
  refine .look fun w => ?_
  cases w.containers.get? previous with
  | none => exact .pure _
  | some c =>
    exact .bind (h.emit _ rfl) fun _ => .bind (h.closeContainerIfOpen _) fun _ =>
      .bind (h.library _ _) fun _ => .bind (h.dropContainer _) fun _ => .pure _

/-- The packages of a container entered into a library. -/
theorem enterAll (slot : String) (c : Container) (l : Library) :
    Along R (do
      let w ← get
      let (count, entered) := l.enterAll c.path (w.publications c)
      (w.unidentified c).forM fun h => through (Gateway.emit (.packageWithoutId h c.path))
      update slot (.library entered)
      l.packageIds.forM Host.dropPackage
      pure count : StateM Host Nat) :=
  .look fun _ => .bind (.forM (fun _ => h.emit _ rfl) _) fun _ => .bind (h.library _ _) fun _ =>
    .bind (.forM h.dropPackage _) fun _ => .pure _

theorem addToLibrary (slot : String) (l : Library) (id : ContainerId) :
    Along R (Host.addToLibrary slot l id) := by
  refine .look fun w => ?_
  cases w.containers.get? id with
  | none => exact .pure _
  | some c =>
    dsimp only
    cases l.replaced? c.path id with
    | none => exact .bind (.pure _) (h.enterAll slot c)
    | some previous => exact .bind (h.retire slot _ previous) (h.enterAll slot c)

theorem closeAndDrop (id : ContainerId) : Along R (Host.closeAndDrop id) :=
  .bind (h.closeContainerIfOpen id) fun _ => h.dropContainer id

theorem closeLibrary (slot : String) (l : Library) : Along R (Host.closeLibrary slot l) :=
  .bind (.modify fun _ => h.rest _ _ rfl rfl rfl rfl) fun _ => .bind (h.library _ _) fun _ =>
    .bind (.forM h.closeAndDrop _) fun _ => .bind (h.library _ _) fun _ => .forM h.dropPackage _

theorem loadLibrary (file : String) : Along R (Host.loadLibrary file) := by
  refine .look fun w => ?_
  cases w.files.read file with
  | error e => exact .pure _
  | ok bytes =>
    dsimp only
    cases Library.ofBytes? bytes with
    | none => exact .pure _
    | some l => exact .bind (h.emit _ rfl) fun _ => .pure _

theorem saveLibrary (l : Library) (file : String) : Along R (Host.saveLibrary l file) := by
  refine .get_bind fun w => ?_
  cases w.files.write file l.toDocument.toUTF8 with
  | error e => exact refl_of R w
  | ok files => exact h.rest _ _ rfl rfl rfl rfl

end Inward

end Host

/-! ## §3. Outside the library. -/

/-- Does the command open nothing, reach no engine and use no package, stream or
fetch? -/
def Command.isQuiet : Command → Bool
  | .register _ _ | .inject _ | .engine _ | .openContainer _ _ _ | .loadPackage _ _ _
  | .addPackage _ _ | .package _ _ | .rawStream _ _ _ | .packageStream _ _ _ _ | .fetch _ _
  | .handOver _ _ _ | .stream _ _ => false
  | _ => true

namespace Host

/-- A relation that allows any work at the gateway without a request for a
navigation table, and objects without an open stream put into slots. -/
structure Outward (R : Host → Host → Prop) : Prop where
  through : ∀ {α : Type} {post : α → Prop} {m : StateM Gateway α}, Gateway.Forward post m →
    Along R (Host.through m)
  closePackage : ∀ k, Along R (closePackage k)
  removePackage : ∀ (w : Host) k, R w { w with packages := w.packages.remove k }
  put : ∀ (slot : String) (o : Holding), o.openHandle? = none → Along R (update slot o)
  erase : ∀ (w : Host) (slot : String), R w { w with slots := w.slots.erase slot }
  /-- Whatever else changes, the gateway, the packages and the slots do not, and
  no container is added. -/
  rest : ∀ w w' : Host, w'.gateway = w.gateway → w'.packages = w.packages → w'.slots = w.slots →
    w'.containers.next = w.containers.next → R w w'

namespace Outward

variable {R : Host → Host → Prop} [IsPreorder Host R] (h : Outward R) {slot dest : String}

include h

omit [IsPreorder Host R] in
theorem inward : Inward R :=
  ⟨fun e _ => h.through (.emit e), fun x _ => h.through x.release_forward,
    fun x => h.through x.drop_onward, fun w k _ _ _ => h.closePackage k w, h.removePackage,
    fun slot _ => h.put slot _ rfl, h.rest⟩

theorem closeContainer (id : ContainerId) : Along R (Host.closeContainer id) := by
  intro w
  cases hc : w.containers.get? id with
  | none =>
    unfold Host.closeContainer
    rw [get_bind_apply, hc]
    exact refl_of R w
  | some c => exact h.inward.closeContainer hc (h.through c.handle.release_forward)

theorem dropHolding (o : Holding) : Along R (Host.dropHolding o) :=
  h.inward.dropHolding fun f _ => h.through f.close_forward

/-- What a slot held goes away after the slot was filled. -/
theorem dropReplaced (slot : String) (o : Holding) (w : Host) :
    R (update slot o w).2 (Host.store slot o w).2 := by
  unfold store
  rw [get_bind_apply]
  cases w.slots[slot]? with
  | none => exact refl_of R _
  | some old => exact h.dropHolding old _

theorem store {o : Holding} (hput : Along R (update slot o)) : Along R (Host.store slot o) := by
  intro w
  exact trans_of R (hput w) (h.dropReplaced slot o w)

theorem storePlain {o : Holding} (ho : o.openHandle? = none) : Along R (Host.store slot o) :=
  h.store (h.put slot o ho)

theorem clear (slot : String) : Along R (Host.clear slot) := by
  refine .get_bind fun w => ?_
  cases w.slots[slot]? with
  | none => exact refl_of R w
  | some o => exact trans_of R (h.erase w slot) (h.dropHolding o _)

/-- Work at the gateway whose outcome is the answer. -/
theorem answer {α : Type} {post : α → Prop} {m : StateM Gateway α} (hm : Gateway.Forward post m)
    (f : α → Answer) : Along R (do return f (← Host.through m)) :=
  .bind (h.through hm) fun _ => .pure _

theorem runNotifier (op : NotifierOp) : Along R (Host.runNotifier op) := by
  have hnote : ∀ f : Host → Notifier, Along R (modify fun w : Host => { w with notifier := f w }) :=
    fun f => .modify fun w => h.rest _ _ rfl rfl rfl rfl
  cases op with
  | install mode => exact .bind (hnote _) fun _ => .pure _
  | clear => exact .bind (hnote _) fun _ => .pure _
  | hasHandler => exact .look fun _ => .pure _
  | report message severe =>
    exact .look fun _ => .bind (h.through (.emit? _)) fun _ => .bind (hnote _) fun _ => .pure _

theorem runOwned (op : OwnedOp) : Along R (Host.runOwned slot op) := by
  intro w
  cases op with
  | info => exact withOwned_keeps (refl_of R w) fun _ _ => refl_of R w
  | release =>
    refine withOwned_keeps (refl_of R w) fun x _ => ?_
    exact Along.bind (h.through x.release_forward)
      (fun _ => .bind (h.put _ _ rfl) fun _ => .pure _) w

theorem runContainer (op : ContainerOp) : Along R (Host.runContainer slot op) := by
  intro w
  cases op with
  | info => exact withContainer_keeps (refl_of R w) fun _ _ _ _ => refl_of R w
  | close => exact withContainer_keeps (refl_of R w) fun id _ _ _ => h.closeContainer id w
  | rawBytes path =>
    exact withContainer_keeps (refl_of R w) fun _ c _ _ => h.answer (c.rawBytes_onward path) _ w

/-- Of the operations of a package one asks for a navigation table, and one sets
addresses. -/
theorem runPackage (op : PackageOp) (hn : ∀ kind, op ≠ .navigation kind)
    (hu : ∀ urls, op ≠ .setRootUrls urls) : Along R (Host.runPackage slot op) := by
  intro w
  have hkeeps : ∀ {f : PackageId → Package → StateM Host Answer}, (∀ k p, R w (f k p w).2) →
      R w (withPackage slot f w).2 :=
    fun hf => withPackage_keeps (refl_of R w) fun k p _ _ => hf k p
  cases op with
  | navigation kind => exact absurd rfl (hn kind)
  | setRootUrls urls => exact absurd rfl (hu urls)
  | close => exact hkeeps fun k _ => h.closePackage k w
  | property name vocabulary =>
    exact hkeeps fun _ p => h.answer (p.property_onward name vocabulary) _ w
  | hasProperty name vocabulary =>
    exact hkeeps fun _ p => h.answer (p.hasProperty_onward name vocabulary) _ w
  | probeSize path =>
    exact hkeeps fun _ p => h.answer (p.probeSize_onward (w.isAttached p) path) _ w
  | describe => exact hkeeps fun _ p => h.answer p.describe_onward _ w
  | _ => exact hkeeps fun _ _ => refl_of R w

theorem runSelect (index : Option Nat) : Along R (Host.runSelect slot index dest) := fun w =>
  runSelect_keeps (refl_of R w) fun _ _ _ _ _ => h.storePlain rfl w

/-- A container opened, and then put into a slot. -/
theorem runOpen {path : String} {config : Config} (hopen : Along R (openContainer path config)) :
    Along R (Host.runOpen path config dest) := by
  refine .bind hopen fun r => ?_
  cases r with
  | error e => exact .pure _
  | ok id =>
    refine .look fun w => ?_
    cases w.containers.get? id with
    | none => exact .pure _
    | some c => exact .bind (h.storePlain rfl) fun _ => .pure _

omit h in
theorem runAddPackage (hadd : ∀ id k, Along R (addPackage id k)) (container package : String) :
    Along R (Host.runAddPackage container package) := by
  intro w
  refine withContainer_keeps (refl_of R w) fun id _ _ _ =>
    withPackage_keeps (refl_of R w) fun k _ _ _ => ?_
  rw [get_bind_apply]
  split
  · exact hadd id k w
  · exact refl_of R w

omit h in
theorem runQuery (q : LibraryQuery) : Along R (Host.runQuery slot q) := by
  intro w
  refine withLibrary_keeps (refl_of R w) fun l _ => ?_
  rw [get_bind_apply]
  cases q <;> exact refl_of R w

theorem runLibraryPackage (key : PackageKey) (dest : Option String) :
    Along R (Host.runLibraryPackage slot key dest) := by
  intro w
  refine withLibrary_keeps (refl_of R w) fun l _ => ?_
  rw [get_bind_apply]
  cases findPackage l key with
  | none => exact refl_of R w
  | some k =>
    cases dest with
    | none => exact refl_of R w
    | some m => exact h.storePlain rfl w

theorem writeFile (file : String) (bytes : ByteArray) :
    Along R (Host.run (.writeFile file bytes)) := by
  refine .get_bind fun w => ?_
  cases w.files.write file bytes with
  | error e => exact refl_of R w
  | ok files => exact h.rest _ _ rfl rfl rfl rfl

omit h in
theorem showFile (file : String) : Along R (Host.run (.showFile file)) := by
  refine .look fun w => ?_
  cases w.files.read file <;> exact .pure _

/-- **A quiet command** leads along every such relation. -/
theorem run (c : Command) (hc : c.isQuiet = true) : Along R (Host.run c) := by
  intro w
  cases c with
  | lastHint | released => exact refl_of R w
  | notifier op => exact h.runNotifier op w
  | writeFile file bytes => exact h.writeFile file bytes w
  | showFile file => exact showFile file w
  | drop slot => exact h.clear slot w
  | own x kind dest => exact h.storePlain rfl w
  | owned slot op => exact h.runOwned op w
  | container slot op => exact h.runContainer op w
  | selectPackage slot index dest => exact h.runSelect index w
  | fetchResource slot path raw dest =>
    exact withPackage_keeps (refl_of R w) fun _ _ _ _ => h.storePlain rfl w
  | fetchInfo slot => exact withFetch_keeps (refl_of R w) fun _ _ _ _ => refl_of R w
  | streamInfo slot => exact withStream_keeps (refl_of R w) fun _ _ => refl_of R w
  | newLibrary dest => exact h.storePlain rfl w
  | loadLibrary file dest =>
    have hload : Along R (Host.run (.loadLibrary file dest)) := by
      refine .bind (h.inward.loadLibrary file) fun r => ?_
      cases r with
      | error e => exact .pure _
      | ok l => exact .bind (h.storePlain rfl) fun _ => .pure _
    exact hload w
  | saveLibrary slot file =>
    refine withLibrary_keeps (refl_of R w) fun l _ => ?_
    refine Along.bind (h.inward.saveLibrary l file) (fun r => ?_) w
    cases r <;> exact .pure _
  | addToLibrary slot container =>
    exact withLibrary_keeps (refl_of R w) fun l _ =>
      withContainer_keeps (refl_of R w) fun id _ _ _ =>
      h.inward.addToLibrary slot l id w
  | library slot query => exact runQuery query w
  | libraryPackage slot key dest => exact h.runLibraryPackage key dest w
  | closeLibrary slot =>
    exact withLibrary_keeps (refl_of R w) fun l _ => h.inward.closeLibrary slot l w
  | _ => exact absurd hc (by simp [Command.isQuiet])

end Outward

/-! ## §4. Relations that look at the gateway and the slots. -/

/-- A relation that allows any work at the gateway without a request for a
navigation table, and any change of the pools. -/
structure Poolwise (R : Host → Host → Prop) : Prop where
  through : ∀ {α : Type} {post : α → Prop} {m : StateM Gateway α}, Gateway.Forward post m →
    Along R (Host.through m)
  /-- Whatever else changes, the gateway and the slots do not. -/
  rest : ∀ w w' : Host, w'.gateway = w.gateway → w'.slots = w.slots → R w w'

namespace Poolwise

variable {R : Host → Host → Prop} [IsPreorder Host R] (h : Poolwise R)

include h

theorem closePackage (k : PackageId) : Along R (Host.closePackage k) := by
  refine .look fun w => ?_
  cases w.packages.get? k with
  | none => exact .pure _
  | some p =>
    exact .bind (h.through p.close_forward) fun _ => .bind (.modify fun _ => h.rest _ _ rfl rfl)
      fun _ => .pure _

theorem loadPackages (link : ContainerLink) (config : Config) (hs : List Handle) :
    Along R (Host.loadPackages link config hs) := by
  induction hs with
  | nil => exact .pure _
  | cons x hs ih =>
    refine .bind (h.through (Package.load_forward x config)) fun p => .get_bind fun w => ?_
    have hadd : R w { w with packages := (w.packages.add { p with link := some link }).2 } :=
      h.rest _ _ rfl rfl
    exact trans_of R hadd (Along.bind ih (fun _ => .pure _) _)

theorem openContainer (path : String) (config : Config) :
    Along R (Host.openContainer path config) := by
  refine .bind (h.through (openArchive_onward path)) fun x => ?_
  cases x with
  | none => exact .pure _
  | some x =>
    refine .bind (h.through (containerVersion_onward x)) fun version => ?_
    refine .bind (h.through (packages_onward x)) fun handles => .look fun w => ?_
    refine .bind (h.loadPackages _ _ _) fun packages => .get_bind fun w => ?_
    have hadd : ∀ c, R w { w with containers := (w.containers.add c).2 } :=
      fun c => h.rest _ _ rfl rfl
    exact trans_of R (hadd _) (h.through (.emit _) _)

theorem loadPackage (x : Handle) (config : Config) : Along R (Host.loadPackage x config) :=
  .bind (h.through (Package.load_forward x config)) fun _ => .get_bind fun _ => h.rest _ _ rfl rfl

theorem addPackage (id : ContainerId) (k : PackageId) : Along R (Host.addPackage id k) := by
  refine .get_bind fun w => ?_
  cases w.containers.get? id with
  | none => exact refl_of R w
  | some c =>
    cases w.packages.get? k with
    | none => exact refl_of R w
    | some p =>
      dsimp only
      cases p.attach? { container := id, path := c.path } with
      | none => exact h.through (.emit _) w
      | some p => exact h.rest _ _ rfl rfl

end Poolwise

/-! ## §5. Relations that do not look at the slots. -/

end Host

/-- Does the command work through the library, with the containers and packages
that are there? -/
def Command.isOrdinary : Command → Bool
  | .register _ _ | .inject _ | .engine _ | .openContainer _ _ _ | .loadPackage _ _ _ => false
  | _ => true

namespace Host

/-- A relation that allows any work at the gateway, any change of packages that are
there, and anything put into slots. -/
structure Slotwise (R : Host → Host → Prop) : Prop extends Outward R where
  fill : ∀ (slot : String) (o : Holding), Along R (update slot o)
  navigation : ∀ (p : Package) kind, Along R (Host.through (p.navigation kind))
  setPackage : ∀ k p, Along R (Host.setPackage k p)
  addPackage : ∀ id k, Along R (Host.addPackage id k)

namespace Slotwise

variable {R : Host → Host → Prop} [IsPreorder Host R] (h : Slotwise R) {slot dest : String}

include h

theorem runPackage (op : PackageOp) : Along R (Host.runPackage slot op) := by
  intro w
  cases op with
  | navigation kind =>
    refine withPackage_keeps (refl_of R w) fun k p _ _ => ?_
    exact Along.bind (h.navigation p kind) (fun _ => .bind (h.setPackage k _) fun _ => .pure _) w
  | setRootUrls urls =>
    refine withPackage_keeps (refl_of R w) fun k p _ _ => ?_
    exact Along.bind (h.setPackage k _) (fun _ => .pure _) w
  | _ => exact h.toOutward.runPackage _ (by simp) (by simp) w

/-- A stream that is opened, put into a slot. -/
theorem storeStream (s? : Option ContentStream) : Along R (Host.storeStream dest s?) := by
  cases s? with
  | none => exact .pure _
  | some s => exact h.toOutward.store (h.fill dest _)

omit [IsPreorder Host R] in
theorem openPackageStream (p : Package) (path : String) (mode : StreamMode) :
    Along R (Host.openPackageStream p path mode) := by
  refine .look fun w => ?_
  cases mode with
  | filtered ranged => exact h.through (p.openStream_onward _ path ranged)
  | raw => exact h.through (p.openRawStream_onward _ path)

/-- **An ordinary command** leads along every such relation. -/
theorem run (c : Command) (hc : c.isOrdinary = true) : Along R (Host.run c) := by
  intro w
  cases c with
  | register | inject | engine | openContainer | loadPackage =>
    exact absurd hc (by simp [Command.isOrdinary])
  | addPackage container package => exact Outward.runAddPackage h.addPackage container package w
  | package slot op => exact h.runPackage op w
  | rawStream slot path dest =>
    refine withContainer_keeps (refl_of R w) fun _ c _ _ => ?_
    exact Along.bind (h.through (c.rawStream_onward path))
      (fun s => .bind (h.storeStream s) fun _ => .pure _) w
  | packageStream slot path mode dest =>
    refine withPackage_keeps (refl_of R w) fun _ p _ _ => ?_
    exact Along.bind (h.openPackageStream p path mode)
      (fun s => .bind (h.storeStream s) fun _ => .pure _) w
  | fetch slot op =>
    refine withFetch_keeps (refl_of R w) fun f p _ _ => ?_
    rw [get_bind_apply]
    exact Along.bind (h.through (f.run_forward p _ op))
      (fun _ => .bind (h.fill slot _) fun _ => .pure _) w
  | handOver slot ranged dest =>
    refine withFetch_keeps (refl_of R w) fun f p _ _ => ?_
    rw [get_bind_apply]
    refine Along.bind (h.through (f.handOver_forward p _ ranged)) (fun r => ?_) w
    exact .bind (h.fill slot _) fun _ => .bind (h.storeStream _) fun _ => .pure _
  | stream slot op =>
    refine withStream_keeps (refl_of R w) fun s _ => ?_
    exact Along.bind (h.through (StreamOp.run_onward s op))
      (fun _ => .bind (h.fill slot _) fun _ => .pure _) w
  | _ => exact h.toOutward.run _ rfl w

end Slotwise

/-- A relation that allows any work at the gateway, and any change elsewhere. -/
structure Gatewise (R : Host → Host → Prop) : Prop where
  through : ∀ {α : Type} {post : α → Prop} {m : StateM Gateway α}, Gateway.Forward post m →
    Along R (Host.through m)
  navigation : ∀ (p : Package) kind, Along R (Host.through (p.navigation kind))
  /-- Whatever else changes, the gateway does not. -/
  rest : ∀ w w' : Host, w'.gateway = w.gateway → R w w'

namespace Gatewise

variable {R : Host → Host → Prop} (h : Gatewise R)

include h

theorem poolwise : Poolwise R := ⟨h.through, fun w w' hg _ => h.rest w w' hg⟩

theorem slotwise [IsPreorder Host R] : Slotwise R where
  through := h.through
  closePackage := h.poolwise.closePackage
  removePackage _ _ := h.rest _ _ rfl
  put _ _ _ _ := h.rest _ _ rfl
  erase _ _ := h.rest _ _ rfl
  rest w w' hg _ _ _ := h.rest w w' hg
  fill _ _ _ := h.rest _ _ rfl
  navigation := h.navigation
  setPackage _ _ _ := h.rest _ _ rfl
  addPackage := h.poolwise.addPackage

end Gatewise

end Host

end EpubAccess
