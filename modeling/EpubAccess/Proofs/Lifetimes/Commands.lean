/-
  EpubAccess.Proofs.Lifetimes.Commands
  ────────────────────────────────
  What every command leaves as it was, and what a run cannot undo.

  `Host.scope` tells what one command may do: what it puts into slots, what it
  closes and what it attaches.  `Host.run_later` is the step lemma, for every
  command, also those that go around the library: whatever a host is asked
  for, it stays within that scope.  So over a run numbers only grow, what is
  closed stays closed, and a container that stops standing takes its packages
  with it (`Host.after_later`).
-/
import EpubAccess.Proofs.Lifetimes.Libraries
import EpubAccess.Proofs.Ownership.Runs

namespace EpubAccess

open Stateful

/-- Is the object neither a fetch nor a library? -/
def Holding.isPlain : Holding → Bool
  | fetch _ | library _ => false
  | _ => true

namespace Holding

/-- The container, if it is one. -/
def container? : Holding → Option ContainerId
  | container id => some id
  | _ => none

/-- The package, if it is one. -/
def package? : Holding → Option PackageId
  | package k => some k
  | _ => none

/-- The fetch, if it is one. -/
def fetch? : Holding → Option Fetch
  | fetch f => some f
  | _ => none

/-- The library, if it is one. -/
def library? : Holding → Option Library
  | library l => some l
  | _ => none

variable {o : Option Holding}

/-- A slot that shows something of one kind holds it. -/
theorem eq_of_view {α : Type} {view : Holding → Option α} {make : α → Holding} {a : α}
    (hview : ∀ o a, view o = some a → o = make a) (h : o.bind view = some a) :
    o = some (make a) := by
  obtain ⟨o, rfl, ho⟩ := Option.bind_eq_some_iff.mp h
  rw [hview o a ho]

theorem eq_container {id : ContainerId} : o.bind container? = some id → o = some (container id) :=
  eq_of_view fun o _ ho => by cases o <;> simp_all [container?]

theorem eq_package {k : PackageId} : o.bind package? = some k → o = some (package k) :=
  eq_of_view fun o _ ho => by cases o <;> simp_all [package?]

theorem eq_fetch {f : Fetch} : o.bind fetch? = some f → o = some (fetch f) :=
  eq_of_view fun o _ ho => by cases o <;> simp_all [fetch?]

theorem eq_library {l : Library} : o.bind library? = some l → o = some (library l) :=
  eq_of_view fun o _ ho => by cases o <;> simp_all [library?]

end Holding

/-- The slots that a command puts a handle, a container, a package or a stream into. -/
def Command.makes : Command → List String
  | .owned slot _ | .stream slot _ => [slot]
  | .own _ _ dest | .openContainer _ _ dest | .rawStream _ _ dest | .selectPackage _ _ dest
  | .loadPackage _ _ dest | .packageStream _ _ _ dest | .handOver _ _ dest => [dest]
  | .libraryPackage _ _ dest => dest.toList
  | _ => []

namespace Host

/-! ## §1. The scope of a command. -/

/-- What may stand in a slot that a command did not leave alone. -/
inductive Puts (w : Host) : Command → String → Option Holding → Prop
  | emptied (slot : String) : Puts w (.drop slot) slot none
  | plain {c : Command} {m : String} {o : Holding} (hm : m ∈ c.makes) (ho : o.isPlain = true) :
      Puts w c m (some o)
  | newFetch {slot path dest : String} {raw : Bool} {k : PackageId}
      (hk : w.slots[slot]? = some (.package k)) :
      Puts w (.fetchResource slot path raw dest) dest (some (.fetch (.start k path raw)))
  | fetched {slot : String} {op : FetchOp} {f : Fetch} {p : Package}
      (hf : w.slots[slot]? = some (.fetch f)) (hp : w.packages.get? f.package = some p) :
      Puts w (.fetch slot op) slot
        (some (.fetch (op.run f p (w.isAttached p) w.gateway).1.2))
  | handedOver {slot dest : String} {ranged : Bool} {f : Fetch} {p : Package}
      (hf : w.slots[slot]? = some (.fetch f)) (hp : w.packages.get? f.package = some p) :
      Puts w (.handOver slot ranged dest) slot
        (some (.fetch (f.handOver p (w.isAttached p) ranged w.gateway).1.2))
  | newLibrary (dest : String) : Puts w (.newLibrary dest) dest (some (.library .empty))
  | loadedLibrary {file dest : String} {bytes : ByteArray} {l : Library}
      (hl : Library.ofBytes? bytes = some l) :
      Puts w (.loadLibrary file dest) dest (some (.library l))
  | addedTo {slot other : String} {l : Library} {id : ContainerId} {c : Container}
      (hl : w.slots[slot]? = some (.library l)) (hid : w.slots[other]? = some (.container id))
      (hc : w.containers.get? id = some c) :
      Puts w (.addToLibrary slot other) slot (some (.library (w.added l id c)))
  | closedLibrary {slot : String} {l : Library} (hl : w.slots[slot]? = some (.library l)) :
      Puts w (.closeLibrary slot) slot (some (.library l.forgetObjects))

/-- The containers that a command is to close. -/
inductive Closes (w : Host) : Command → ContainerId → Prop
  | container {slot : String} {id : ContainerId} (hid : w.slots[slot]? = some (.container id)) :
      Closes w (.container slot .close) id
  | replaced {slot other : String} {l : Library} {j id : ContainerId} {c : Container}
      (hl : w.slots[slot]? = some (.library l)) (hj : w.slots[other]? = some (.container j))
      (hc : w.containers.get? j = some c) (hid : l.replaced? c.path j = some id) :
      Closes w (.addToLibrary slot other) id
  | library {slot : String} {l : Library} {id : ContainerId}
      (hl : w.slots[slot]? = some (.library l)) (hid : id ∈ l.containerIds) :
      Closes w (.closeLibrary slot) id

/-- The packages that a command is to close itself. -/
inductive Shuts (w : Host) : Command → PackageId → Prop
  | package {slot : String} {k : PackageId} (hk : w.slots[slot]? = some (.package k)) :
      Shuts w (.package slot .close) k

/-- The containers that a command may attach a package to: those with one owner. -/
inductive Attaches (w : Host) : Command → ContainerId → Prop
  | container {slot other : String} {id : ContainerId} (hid : w.slots[slot]? = some (.container id))
      (howners : w.containerOwners id ≤ 1) : Attaches w (.addPackage slot other) id

/-- What a command may do to the objects of a host. -/
def scope (w : Host) (c : Command) : Scope :=
  ⟨Puts w c, Closes w c, Shuts w c, Attaches w c⟩

/-- The scope of a run, which may do everything. -/
abbrev Scope.any : Scope := ⟨fun _ _ => True, fun _ => True, fun _ => True, fun _ => True⟩

variable {S : Scope} {w w' : Host} {slot dest : String}

/-! ## §2. Work with what a slot holds. -/

theorem withContainer_later {f : ContainerId → Container → StateM Host Answer} (hw : Consistent w)
    (hf : ∀ id c, w.slots[slot]? = some (.container id) → w.containers.get? id = some c →
      Later S w (f id c w).2) : Later S w (withContainer slot f w).2 :=
  withContainer_keeps (.refl S hw) hf

theorem withPackage_later {f : PackageId → Package → StateM Host Answer} (hw : Consistent w)
    (hf : ∀ k p, w.slots[slot]? = some (.package k) → w.packages.get? k = some p →
      Later S w (f k p w).2) : Later S w (withPackage slot f w).2 :=
  withPackage_keeps (.refl S hw) hf

theorem withFetch_later {f : Fetch → Package → StateM Host Answer} (hw : Consistent w)
    (hf : ∀ r p, w.slots[slot]? = some (.fetch r) → w.packages.get? r.package = some p →
      Later S w (f r p w).2) : Later S w (withFetch slot f w).2 :=
  withFetch_keeps (.refl S hw) hf

theorem withStream_later {f : ContentStream → StateM Host Answer} (hw : Consistent w)
    (hf : ∀ s, w.slots[slot]? = some (.stream s) → Later S w (f s w).2) :
    Later S w (withStream slot f w).2 :=
  withStream_keeps (.refl S hw) hf

theorem withOwned_later {f : OwnedHandle → StateM Host Answer} (hw : Consistent w)
    (hf : ∀ x, w.slots[slot]? = some (.owned x) → Later S w (f x w).2) :
    Later S w (withOwned slot f w).2 :=
  withOwned_keeps (.refl S hw) hf

theorem withLibrary_later {f : Library → StateM Host Answer} (hw : Consistent w)
    (hf : ∀ l, w.slots[slot]? = some (.library l) → Later S w (f l w).2) :
    Later S w (withLibrary slot f w).2 :=
  withLibrary_keeps (.refl S hw) hf

/-- Work at the gateway alone. -/
theorem Later.through {α : Type} {post : α → Prop} {m : StateM Gateway α} (hw : Consistent w)
    (hm : Gateway.Forward post m) : Later S w (Host.through m w).2 :=
  .same hw (hm w.gateway).1.issued_le

/-- Something that owns nothing put into a slot. -/
theorem storePlain_later {o : Holding} (hw : Consistent w) (hc : o.containers = [])
    (hp : o.packages = []) (hs : S.slots dest (some o)) : Later S w (store dest o w).2 :=
  store_later hw (by simp [hc]) (by simp [hp]) hs

theorem storeStream_later {s : Option ContentStream} (hw : Consistent w)
    (hs : ∀ s, S.slots dest (some (.stream s))) : Later S w (storeStream dest s w).2 := by
  cases s with
  | none => exact .refl S hw
  | some s => exact storePlain_later hw rfl rfl (hs s)

/-- A package that is there put into a slot. -/
theorem storePackage_later {k : PackageId} (hw : Consistent w)
    (hk : ∃ p, w.packages.get? k = some p) (hs : S.slots dest (some (.package k))) :
    Later S w (store dest (.package k) w).2 :=
  store_later hw (by simp [Holding.containers]) (by simpa [Holding.packages] using hk) hs

/-! ## §3. Objects that are opened. -/

/-- Packages are loaded open, under new numbers, each attached as told. -/
theorem loadPackages_later (link : ContainerLink) (config : Config) (hs : List Handle)
    (hw : Consistent w) :
    Later S w (loadPackages link config hs w).2
      ∧ (loadPackages link config hs w).2.containers = w.containers
      ∧ (∀ k p, w.packages.get? k = some p →
          (loadPackages link config hs w).2.packages.get? k = some p)
      ∧ ∀ k ∈ (loadPackages link config hs w).1,
          ∃ p, (loadPackages link config hs w).2.packages.get? k = some p ∧ p.link = some link := by
  induction hs generalizing w with
  | nil => exact ⟨.refl S hw, rfl, fun _ _ h => h, fun k hk => absurd hk List.not_mem_nil⟩
  | cons h hs ih =>
    have hload := Package.load_forward h config w.gateway
    unfold loadPackages
    simp only [bind_apply, through_apply, get_apply, set_apply, pure_apply]
    generalize Package.load h config w.gateway = r at hload ⊢
    obtain ⟨p, g⟩ := r
    obtain ⟨hserved, hhandle, -⟩ := hload
    have hgate : Later S w { w with gateway := g } := .same hw hserved.issued_le
    have hadd : Later S _ { w with
        gateway := g, packages := (w.packages.add { p with link := some link }).2 } :=
      .addPackage hgate.after (by rw [hhandle]; rfl) (by rw [Package.isClosed, hhandle]; rfl)
    obtain ⟨hrest, hcontainers, hkept, hlinks⟩ := ih hadd.after
    refine ⟨(hgate.trans hadd).trans hrest, hcontainers, fun k q hq => hkept k q ?_, fun k hk => ?_⟩
    · -- a package that was there has a smaller number than the one that is loaded
      exact Pool.get?_add_eq_some.mpr (.inr ⟨Nat.ne_of_lt (hw.packageIds k q hq), hq⟩)
    · rcases List.mem_cons.mp hk with rfl | hk
      · exact ⟨_, hkept _ _ (Pool.get?_add_eq_some.mpr (.inl ⟨rfl, rfl⟩)), rfl⟩
      · exact hlinks k hk

/-- The packages that are loaded get the next numbers, in order. -/
theorem loadPackages_ids (link : ContainerLink) (config : Config) (hs : List Handle) (w : Host) :
    (loadPackages link config hs w).1 = List.range' w.packages.next hs.length := by
  induction hs generalizing w with
  | nil => rfl
  | cons h hs ih =>
    unfold loadPackages
    simp only [bind_apply, through_apply, get_apply, set_apply, pure_apply]
    rw [ih]
    rfl

theorem openContainer_later (path : String) (config : Config) (hw : Consistent w) :
    Later S w (openContainer path config w).2 := by
  unfold openContainer
  rw [bind_apply]
  have hopen : Later S w (through (Gateway.openArchive path) w).2 :=
    .through hw (Gateway.openArchive_onward path)
  generalize through (Gateway.openArchive path) w = r at hopen ⊢
  obtain ⟨_ | h, w1⟩ := r
  · exact hopen
  simp only [bind_apply, get_apply, set_apply, pure_apply]
  have hversion : Later S w1 (through (Gateway.containerVersion h) w1).2 :=
    .through hopen.after (Gateway.containerVersion_onward h)
  generalize through (Gateway.containerVersion h) w1 = r at hversion ⊢
  have hpackages : Later S r.2 (through (Gateway.packages h) r.2).2 :=
    .through hversion.after (Gateway.packages_onward h)
  generalize through (Gateway.packages h) r.2 = q at hpackages ⊢
  obtain ⟨hload, hcontainers, -, hlinks⟩ := loadPackages_later (S := S)
    { container := q.2.containers.next, path } config q.1 hpackages.after
  have hids := loadPackages_ids { container := q.2.containers.next, path } config q.1 q.2
  generalize loadPackages { container := q.2.containers.next, path } config q.1 q.2 = x
    at hload hcontainers hlinks hids ⊢
  have hadd : Later S x.2 { x.2 with containers := (x.2.containers.add
      { handle := .take h .container, path, version := r.1, packages := x.1, config }).2 } :=
    .addContainer hload.after (fun k hk => hcontainers ▸ hlinks k hk) (hids ▸ List.nodup_range')
  exact ((((hopen.trans hversion).trans hpackages).trans hload).trans hadd).trans
    (.emit hadd.after _)

theorem runOpen_later (path : String) (config : Config) (hw : Consistent w)
    (hs : ∀ id, S.slots dest (some (.container id))) :
    Later S w (runOpen path config dest w).2 := by
  have hopen := openContainer_later (S := S) path config hw
  unfold runOpen
  rw [bind_apply]
  generalize openContainer path config w = r at hopen ⊢
  obtain ⟨_ | id, w1⟩ := r
  · exact hopen
  dsimp only
  rw [get_bind_apply]
  cases hc : w1.containers.get? id with
  | none => exact hopen
  | some c =>
    exact hopen.trans (store_later hopen.after (by simpa [Holding.containers] using ⟨c, hc⟩)
      (by simp [Holding.packages]) (hs id))

theorem loadPackage_later (h : Handle) (config : Config) (hw : Consistent w)
    (hs : ∀ k, S.slots dest (some (.package k))) :
    Later S w (run (.loadPackage h config dest) w).2 := by
  have hload := Package.load_forward h config w.gateway
  show Later S w ((do
    let id ← loadPackage h config
    store dest (.package id)
    pure (Answer.handle (some h)) : StateM Host Answer) w).2
  unfold loadPackage
  simp only [bind_apply, through_apply, get_apply, set_apply, pure_apply]
  generalize Package.load h config w.gateway = r at hload ⊢
  obtain ⟨p, g⟩ := r
  obtain ⟨hserved, hhandle, -⟩ := hload
  have hgate : Later S w { w with gateway := g } := .same hw hserved.issued_le
  have hadd : Later S _ { w with gateway := g, packages := (w.packages.add p).2 } :=
    .addPackage hgate.after (by rw [hhandle]; rfl) (by rw [Package.isClosed, hhandle]; rfl)
  have hthere : ∃ q, (w.packages.add p).2.get? w.packages.next = some q :=
    ⟨p, Pool.get?_add_eq_some.mpr (.inl ⟨rfl, rfl⟩)⟩
  exact (hgate.trans hadd).trans (storePackage_later hadd.after hthere (hs _))

theorem addPackage_later {id : ContainerId} {k : PackageId} (hw : Consistent w)
    (hs : S.attaching id) : Later S w (addPackage id k w).2 := by
  unfold addPackage
  rw [get_bind_apply]
  cases hc : w.containers.get? id with
  | none => exact .refl S hw
  | some c =>
    cases hp : w.packages.get? k with
    | none => exact .refl S hw
    | some p =>
      dsimp only
      unfold Package.attach?
      cases hlink : p.link with
      | some link => exact .emit hw _
      | none => exact .attach hw hc hp hlink hs

/-! ## §4. The families. -/

theorem runNotifier_later (op : NotifierOp) (hw : Consistent w) :
    Later S w (runNotifier op w).2 := by
  cases op with
  | report message severe =>
    unfold runNotifier
    simp only [bind_apply, get_apply, through_apply, modify_apply, pure_apply]
    exact .same hw (Gateway.Forward.emit? _ w.gateway).1.issued_le
  | _ => exact .same hw (Nat.le_refl _)

theorem runRequest_later (r : Request) (hw : Consistent w) : Later S w (runRequest r w).2 := by
  unfold runRequest
  rw [bind_apply]
  have hcall : Later S w (through (Gateway.call fun e => e.perform r) w).2 :=
    .same hw (w.gateway.engine.issued_perform_le r)
  generalize through (Gateway.call fun e => e.perform r) w = q at hcall ⊢
  obtain ⟨reply, w1⟩ := q
  cases reply with
  | released notice => exact hcall.trans (.through hcall.after (.emit? notice))
  | _ => exact hcall

theorem runContainer_later (op : ContainerOp) (hw : Consistent w)
    (hs : ∀ id, op = .close → w.slots[slot]? = some (.container id) → S.closing id) :
    Later S w (runContainer slot op w).2 := by
  cases op with
  | info => exact withContainer_later hw fun _ _ _ _ => .refl S hw
  | close =>
    exact withContainer_later hw fun id _ ho _ => (closeContainer_later hw (hs id rfl ho)).1
  | rawBytes path =>
    exact withContainer_later hw fun _ c _ _ => .through hw (c.rawBytes_onward path)

theorem runPackage_later (op : PackageOp) (hw : Consistent w)
    (hs : ∀ k, op = .close → w.slots[slot]? = some (.package k) → S.shutting k) :
    Later S w (runPackage slot op w).2 := by
  cases op with
  | close => exact withPackage_later hw fun k _ ho _ => closePackage_later hw (hs k rfl ho)
  | property name vocabulary =>
    exact withPackage_later hw fun _ p _ _ => .through hw (p.property_onward name vocabulary)
  | hasProperty name vocabulary =>
    exact withPackage_later hw fun _ p _ _ => .through hw (p.hasProperty_onward name vocabulary)
  | probeSize path =>
    exact withPackage_later hw fun _ p _ _ => .through hw (p.probeSize_onward _ path)
  | describe => exact withPackage_later hw fun _ p _ _ => .through hw p.describe_onward
  | navigation kind =>
    refine withPackage_later hw fun k p _ hp => ?_
    obtain ⟨hissued, hlater, hhandle⟩ := p.navigation_later kind w.gateway
    have hask : Later S w (through (p.navigation kind) w).2 := .same hw hissued
    refine hask.trans (.setPackage hask.after hp hlater ?_)
    exact congrArg OwnedHandle.released hhandle
  | setRootUrls urls =>
    exact withPackage_later hw fun k p _ hp =>
      .setPackage hw hp ⟨.refl _, fun _ h => h, rfl⟩ rfl
  | _ => exact withPackage_later hw fun _ _ _ _ => .refl S hw

theorem packageStream_later (path : String) (mode : StreamMode) (hw : Consistent w)
    (hs : ∀ s, S.slots dest (some (.stream s))) :
    Later S w (run (.packageStream slot path mode dest) w).2 := by
  refine withPackage_later hw fun _ p _ _ => ?_
  cases mode with
  | filtered ranged =>
    have hopen : Later S w (through (p.openStream (w.isAttached p) path ranged) w).2 :=
      .through hw (p.openStream_onward _ path ranged)
    exact hopen.trans (storeStream_later hopen.after hs)
  | raw =>
    have hopen : Later S w (through (p.openRawStream (w.isAttached p) path) w).2 :=
      .through hw (p.openRawStream_onward _ path)
    exact hopen.trans (storeStream_later hopen.after hs)

/-- A fetch that stays with its package noted anew. -/
theorem updateFetch_later (slot : String) {f : Fetch} (hw : Consistent w)
    (hf : ∃ p, w.packages.get? f.package = some p) (hs : S.slots slot (some (.fetch f))) :
    Later S w (update slot (.fetch f) w).2 :=
  .update hw (by simp [Holding.containers]) (by simpa [Holding.packages] using hf) hs

theorem runFetch_later (op : FetchOp) (hw : Consistent w)
    (hs : ∀ f p, w.slots[slot]? = some (.fetch f) → w.packages.get? f.package = some p →
      S.slots slot (some (.fetch (op.run f p (w.isAttached p) w.gateway).1.2))) :
    Later S w (runFetch slot op w).2 := by
  refine withFetch_later hw fun f p hf hp => ?_
  have hrun := f.run_forward p (w.isAttached p) op w.gateway
  have hput := hs f p hf hp
  simp only [bind_apply, get_apply, through_apply, pure_apply]
  generalize op.run f p (w.isAttached p) w.gateway = r at hrun hput ⊢
  have hgate : Later S w { w with gateway := r.2 } := .same hw hrun.1.issued_le
  exact hgate.trans (updateFetch_later slot hgate.after ⟨p, by rw [hrun.2]; exact hp⟩ hput)

theorem runHandOver_later (ranged : Bool) (hw : Consistent w)
    (hs : ∀ f p, w.slots[slot]? = some (.fetch f) → w.packages.get? f.package = some p →
      S.slots slot (some (.fetch (f.handOver p (w.isAttached p) ranged w.gateway).1.2)))
    (hs' : ∀ s, S.slots dest (some (.stream s))) :
    Later S w (runHandOver slot ranged dest w).2 := by
  refine withFetch_later hw fun f p hf hp => ?_
  have hrun := f.handOver_forward p (w.isAttached p) ranged w.gateway
  have hput := hs f p hf hp
  simp only [bind_apply, get_apply, through_apply, pure_apply]
  generalize f.handOver p (w.isAttached p) ranged w.gateway = r at hrun hput ⊢
  have hgate : Later S w { w with gateway := r.2 } := .same hw hrun.1.issued_le
  have hupdate := updateFetch_later slot (f := r.1.2) hgate.after
    ⟨p, by rw [hrun.2]; exact hp⟩ hput
  exact (hgate.trans hupdate).trans (storeStream_later hupdate.after hs')

/-- A package that a library finds is at one of its entries. -/
theorem findPackage_entry {l : Library} {key : PackageKey} {k : PackageId}
    (h : findPackage l key = some k) :
    ∃ (u : String) (e : LibraryEntry), l.entries[u]? = some e ∧ e.package = some k := by
  have hunique : ∀ u, l.packageForUniqueId u = some k →
      ∃ (u : String) (e : LibraryEntry), l.entries[u]? = some e ∧ e.package = some k := by
    intro u hu
    obtain ⟨e, he, hek⟩ := Option.bind_eq_some_iff.mp hu
    exact ⟨u, e, he, hek⟩
  cases key with
  | uniqueId u => exact hunique u h
  | url url =>
    obtain ⟨u, -, hu⟩ := Option.bind_eq_some_iff.mp h
    exact hunique u hu

theorem runLibraryPackage_later (key : PackageKey) (dest : Option String) (hw : Consistent w)
    (hs : ∀ m ∈ dest, ∀ k, S.slots m (some (.package k))) :
    Later S w (runLibraryPackage slot key dest w).2 := by
  refine withLibrary_later hw fun l hl => ?_
  rw [get_bind_apply]
  cases hk : findPackage l key with
  | none => exact .refl S hw
  | some k =>
    cases dest with
    | none => exact .refl S hw
    | some m =>
      refine storePackage_later hw ((hw.stocked hl).2 k ?_) (hs m rfl k)
      exact Library.mem_packageIds.mpr (findPackage_entry hk)

/-! ## §5. Every command. -/

theorem loadLibrary_later (file : String) (hw : Consistent w)
    (hs : ∀ bytes l, Library.ofBytes? bytes = some l → S.slots dest (some (.library l))) :
    Later S w (run (.loadLibrary file dest) w).2 := by
  show Later S w ((loadLibrary file >>= _ : StateM Host Answer) w).2
  rw [bind_apply]
  have hload : Later S w (loadLibrary file w).2
      ∧ ∀ l, (loadLibrary file w).1 = .ok l → ∃ bytes, Library.ofBytes? bytes = some l := by
    unfold loadLibrary
    rw [get_bind_apply]
    cases w.files.read file with
    | error e => exact ⟨.refl S hw, fun _ h => by cases h⟩
    | ok bytes =>
      dsimp only
      cases hl : Library.ofBytes? bytes with
      | none => exact ⟨.refl S hw, fun _ h => by cases h⟩
      | some l =>
        exact ⟨.emit hw _, fun l' h => ⟨bytes, hl.trans (congrArg some (Except.ok.inj h))⟩⟩
  generalize loadLibrary file w = r at hload ⊢
  obtain ⟨r, w1⟩ := r
  obtain ⟨hlater, hread⟩ := hload
  cases r with
  | error e => exact hlater
  | ok l =>
    obtain ⟨bytes, hl⟩ := hread l rfl
    obtain ⟨hcontainers, hpackages⟩ := Library.ofBytes?_owns hl
    exact hlater.trans (storePlain_later hlater.after hcontainers hpackages (hs bytes l hl))

theorem saveLibrary_later (file : String) (hw : Consistent w) :
    Later S w (run (.saveLibrary slot file) w).2 := by
  refine withLibrary_later hw fun l _ => ?_
  unfold saveLibrary
  rw [bind_apply, get_bind_apply]
  cases w.files.write file l.toDocument.toUTF8 with
  | error e => exact .refl S hw
  | ok files => exact .same hw (Nat.le_refl _)

theorem writeFile_later (file : String) (bytes : ByteArray) (hw : Consistent w) :
    Later S w (run (.writeFile file bytes) w).2 := by
  show Later S w ((get >>= _ : StateM Host Answer) w).2
  rw [get_bind_apply]
  cases w.files.write file bytes with
  | error e => exact .refl S hw
  | ok files => exact .same hw (Nat.le_refl _)

theorem showFile_later (file : String) (hw : Consistent w) :
    Later S w (run (.showFile file) w).2 := by
  show Later S w ((get >>= _ : StateM Host Answer) w).2
  rw [get_bind_apply]
  cases w.files.read file <;> exact .refl S hw

theorem runOwned_later (op : OwnedOp) (hw : Consistent w)
    (hs : ∀ x, S.slots slot (some (.owned x))) : Later S w (runOwned slot op w).2 := by
  cases op with
  | info => exact withOwned_later hw fun _ _ => .refl S hw
  | release =>
    refine withOwned_later hw fun x _ => ?_
    have hrelease : Later S w (through x.release w).2 := .through hw x.release_forward
    exact hrelease.trans (.update hrelease.after (by simp [Holding.containers])
      (by simp [Holding.packages]) (hs _))

theorem runStream_later (op : StreamOp) (hw : Consistent w)
    (hs : ∀ s, S.slots slot (some (.stream s))) : Later S w (runStream slot op w).2 := by
  refine withStream_later hw fun s _ => ?_
  have hop : Later S w (through (op.run s) w).2 := .through hw (StreamOp.run_onward s op)
  exact hop.trans (.update hop.after (by simp [Holding.containers])
    (by simp [Holding.packages]) (hs _))

theorem rawStream_later (path : String) (hw : Consistent w)
    (hs : ∀ s, S.slots dest (some (.stream s))) :
    Later S w (run (.rawStream slot path dest) w).2 := by
  refine withContainer_later hw fun _ c _ _ => ?_
  have hopen : Later S w (through (c.rawStream path) w).2 := .through hw (c.rawStream_onward path)
  exact hopen.trans (storeStream_later hopen.after hs)

theorem runAddPackage_later (container package : String) (hw : Consistent w)
    (hs : ∀ id, w.slots[container]? = some (.container id) → w.containerOwners id ≤ 1 →
      S.attaching id) : Later S w (runAddPackage container package w).2 := by
  refine withContainer_later hw fun id _ ho _ => withPackage_later hw fun k _ _ _ => ?_
  rw [get_bind_apply]
  split
  · next howners => exact addPackage_later hw (hs id ho howners)
  · exact .refl S hw

theorem runSelect_later (index : Option Nat) (hw : Consistent w)
    (hs : ∀ k, S.slots dest (some (.package k))) :
    Later S w (runSelect slot index dest w).2 := by
  -- the package that is chosen is one of the list, be it the default one
  refine runSelect_keeps (.refl S hw) fun id c k hc hk => ?_
  obtain ⟨p, hp, -⟩ := hw.members id c hc k hk
  exact storePackage_later hw ⟨p, hp⟩ (hs k)

theorem runQuery_later (q : LibraryQuery) (hw : Consistent w) :
    Later S w (runQuery slot q w).2 := by
  refine withLibrary_later hw fun l _ => ?_
  cases q <;> exact .refl S hw

/-- **Every command stays within its scope**, also the direct ones. -/
theorem run_later (c : Command) (hw : Consistent w) : Later (w.scope c) w (run c w).2 := by
  have hself : ∀ x : String, x ∈ [x] := fun x => List.mem_singleton_self x
  -- one case for each constructor: what the command puts, closes or attaches is in its scope
  cases c with
  | register path archive => exact .same hw (Nat.le_refl _)
  | inject fault => exact .same hw (Nat.le_refl _)
  | lastHint => exact .refl _ hw
  | engine r => exact runRequest_later r hw
  | released => exact .refl _ hw
  | notifier op => exact runNotifier_later op hw
  | writeFile file bytes => exact writeFile_later file bytes hw
  | showFile file => exact showFile_later file hw
  | drop slot =>
    have hclear : Later (w.scope (.drop slot)) w (clear slot w).2 :=
      clear_later slot hw (.emptied slot)
    exact hclear
  | own h kind dest => exact storePlain_later hw rfl rfl (.plain (hself dest) rfl)
  | owned slot op => exact runOwned_later op hw fun _ => .plain (hself slot) rfl
  | openContainer path config dest =>
    exact runOpen_later path config hw fun _ => .plain (hself dest) rfl
  | container slot op =>
    refine runContainer_later op hw fun id hop ho => ?_
    subst hop
    exact .container ho
  | rawStream slot path dest => exact rawStream_later path hw fun _ => .plain (hself dest) rfl
  | addPackage container package =>
    exact runAddPackage_later container package hw fun _ ho howners => .container ho howners
  | selectPackage slot index dest => exact runSelect_later index hw fun _ => .plain (hself dest) rfl
  | loadPackage h config dest =>
    exact loadPackage_later h config hw fun _ => .plain (hself dest) rfl
  | package slot op =>
    refine runPackage_later op hw fun k hop ho => ?_
    subst hop
    exact .package ho
  | packageStream slot path mode dest =>
    exact packageStream_later path mode hw fun _ => .plain (hself dest) rfl
  | fetchResource slot path raw dest =>
    refine withPackage_later hw fun k p hk hp => ?_
    have hthere : ∀ j ∈ (Holding.fetch (.start k path raw)).packages,
        ∃ p, w.packages.get? j = some p := fun j hj => ⟨p, List.mem_singleton.mp hj ▸ hp⟩
    exact store_later hw (by simp [Holding.containers]) hthere (.newFetch hk)
  | fetchInfo slot => exact withFetch_later hw fun _ _ _ _ => .refl _ hw
  | fetch slot op => exact runFetch_later op hw fun _ _ hf hp => .fetched hf hp
  | handOver slot ranged dest =>
    exact runHandOver_later ranged hw (fun _ _ hf hp => .handedOver hf hp)
      fun _ => .plain (hself dest) rfl
  | stream slot op => exact runStream_later op hw fun _ => .plain (hself slot) rfl
  | streamInfo slot => exact withStream_later hw fun _ _ => .refl _ hw
  | newLibrary dest =>
    exact storePlain_later hw Library.empty_owns.1 Library.empty_owns.2 (.newLibrary dest)
  | loadLibrary file dest => exact loadLibrary_later file hw fun _ _ hl => .loadedLibrary hl
  | saveLibrary slot file => exact saveLibrary_later file hw
  | addToLibrary slot other =>
    refine withLibrary_later hw fun l hl => withContainer_later hw fun id c hid hc => ?_
    exact (addToLibrary_later (S := w.scope (.addToLibrary slot other)) hw hl hid hc
      (fun _ h => .replaced hl hid hc h) (.addedTo hl hid hc)).1
  | library slot query => exact runQuery_later query hw
  | libraryPackage slot key dest =>
    refine runLibraryPackage_later key dest hw fun m hm k => .plain ?_ rfl
    simpa [Command.makes] using hm
  | closeLibrary slot =>
    refine withLibrary_later hw fun l hl => ?_
    exact (closeLibrary_later (S := w.scope (.closeLibrary slot)) hw hl
      (fun _ h => .library hl h) (.closedLibrary hl)).1

theorem run_addToLibrary_apply {other : String} {l : Library} {id : ContainerId} {c : Container}
    (hl : w.slots[slot]? = some (.library l)) (hid : w.slots[other]? = some (.container id))
    (hc : w.containers.get? id = some c) :
    run (.addToLibrary slot other) w
      = (.added (addToLibrary slot l id w).1, (addToLibrary slot l id w).2) :=
  (withLibrary_some hl).trans (withContainer_some hid hc)

theorem run_closeLibrary_apply {l : Library} (hl : w.slots[slot]? = some (.library l)) :
    run (.closeLibrary slot) w = (.done, (closeLibrary slot l w).2) :=
  withLibrary_some hl

/-- The library that a container was added to is told by `added`. -/
theorem run_addToLibrary_slot {other : String} {l : Library} {id : ContainerId} {c : Container}
    (hw : Consistent w) (hl : w.slots[slot]? = some (.library l))
    (hid : w.slots[other]? = some (.container id)) (hc : w.containers.get? id = some c) :
    (run (.addToLibrary slot other) w).2.slots[slot]? = some (.library (w.added l id c)) := by
  rw [run_addToLibrary_apply hl hid hc]
  exact ((addToLibrary_later (S := .any) hw hl hid hc (fun _ _ => trivial) trivial).2.1 slot).trans
    (if_pos rfl)

/-- A library that was closed knows no objects. -/
theorem run_closeLibrary_slot {l : Library} (hw : Consistent w)
    (hl : w.slots[slot]? = some (.library l)) :
    (run (.closeLibrary slot) w).2.slots[slot]? = some (.library l.forgetObjects) := by
  rw [run_closeLibrary_apply hl]
  exact ((closeLibrary_later (S := .any) hw hl (fun _ _ => trivial) trivial).2.1 slot).trans
    (if_pos rfl)

/-- **What a command closes does not stand afterwards.** -/
theorem run_closes (hw : Consistent w) {c : Command} {id : ContainerId} (h : Closes w c id) :
    (run c w).2.standing? id = none := by
  cases h with
  | @container slot _ ho =>
    obtain ⟨c, hc⟩ := hw.ownedContainers _ _ ho id (by simp [Holding.containers])
    have hrun : run (.container slot .close) w
        = (.flag (closeContainer id w).1, (closeContainer id w).2) := withContainer_some ho hc
    rw [hrun]
    exact (closeContainer_later (S := .any) hw trivial).2
  | replaced hl hj hc hid =>
    rw [run_addToLibrary_apply hl hj hc]
    exact (addToLibrary_later (S := .any) hw hl hj hc (fun _ _ => trivial) trivial).2.2 id hid
  | library hl hid =>
    rw [run_closeLibrary_apply hl]
    exact (closeLibrary_later (S := .any) hw hl (fun _ _ => trivial) trivial).2.2 id hid

/-- A package that a command closes itself is closed afterwards. -/
theorem run_shuts (hw : Consistent w) {c : Command} {k : PackageId} (h : Shuts w c k) :
    (run c w).2.Shut k := by
  cases h with
  | @package slot _ ho =>
    obtain ⟨p, hp⟩ := hw.ownedPackages _ _ ho k (by simp [Holding.packages])
    have hclosings := closePackage_closings k w
    have hrun : run (.package slot .close) w
        = (.flag (closePackage k w).1, (closePackage k w).2) := withPackage_some ho hp
    rw [hrun]
    exact ⟨Nat.lt_of_lt_of_eq (hw.packageIds k p hp) hclosings.next.symm,
      hclosings.done k (List.mem_singleton_self k)⟩

/-! ## §6. Runs. -/

theorem after_nil (w : Host) : after [] w = w := rfl

/-- The last command of a run. -/
theorem after_concat (cs : List Command) (c : Command) (w : Host) :
    after (cs ++ [c]) w = (run c (after cs w)).2 := after_append cs [c] w

/-- Something collected over a run, command after command. -/
def collect {α : Type} (f : Command → Host → List α) : List Command → Host → List α
  | [], _ => []
  | c :: cs, w => f c w ++ collect f cs (run c w).2

theorem collect_append {α : Type} (f : Command → Host → List α) (cs cs' : List Command) (w : Host) :
    collect f (cs ++ cs') w = collect f cs w ++ collect f cs' (after cs w) := by
  induction cs generalizing w with
  | nil => rfl
  | cons c cs ih =>
    show f c w ++ collect f (cs ++ cs') (run c w).2 = (f c w ++ collect f cs (run c w).2) ++ _
    rw [ih, List.append_assoc]
    rfl

/-- Does something hold of every command of a run, in the host that it meets? -/
def throughout (f : Command → Host → Bool) : List Command → Host → Bool
  | [], _ => true
  | c :: cs, w => f c w && throughout f cs (run c w).2

/-- What holds of every step within a scope holds of a run. -/
theorem after_induction {P : Host → Prop} (cs : List Command) (hw : Consistent w) (h : P w)
    (hstep : ∀ c ∈ cs, ∀ w, Consistent w → P w → Later (w.scope c) w (run c w).2 → P (run c w).2) :
    Consistent (after cs w) ∧ P (after cs w) := by
  induction cs generalizing w with
  | nil => exact ⟨hw, h⟩
  | cons c cs ih =>
    have hlater := run_later c hw
    exact ih hlater.after (hstep c (List.mem_cons_self ..) w hw h hlater)
      fun d hd => hstep d (List.mem_cons_of_mem _ hd)

/-- Within some scope, and so within the widest. -/
theorem Later.widen (h : Later S w w') : Later .any w w' :=
  ⟨h.before, h.after, h.issued, h.containersNext, h.packagesNext,
    fun id c' hc' => (h.containers id c' hc').imp_right fun ⟨c, hc, hlater, _⟩ =>
      ⟨c, hc, hlater, .inr trivial⟩,
    h.packages, fun _ _ _ _ => .inl trivial, h.torn, fun _ _ _ _ => .inr (.inl trivial),
    fun _ => .inr trivial⟩

/-- **What a run cannot undo.** -/
theorem after_later (cs : List Command) (hw : Consistent w) : Later .any w (after cs w) :=
  (after_induction (P := fun w' => Later .any w w') cs hw (.refl .any hw)
    fun _ _ _ _ h hstep => h.trans hstep.widen).2

/-- A host fits together after any commands. -/
theorem consistent_after (cs : List Command) : Consistent (after cs fresh) :=
  (after_later cs .fresh).after

end Host

end EpubAccess
