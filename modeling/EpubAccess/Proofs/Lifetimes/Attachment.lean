/-
  EpubAccess.Proofs.Lifetimes.Attachment
  ────────────────────────────────
  An open package has a container that stands.

  A package knows its container by a link that owns nothing, so the container
  may go away first: closed, dropped with its last owner, replaced in a library
  or given up with it.  None of these leaves an open package behind.

  `Host.Housed` is the invariant.  A host that came out of a housed one within
  any scope is housed again if the packages that are new to it are
  (`Later.housed`), since a container that stops standing takes its packages
  with it.  New packages come from the opening of a container, which lists them
  (`openContainer_housed`); only a package that is loaded on its own has none.
-/
import EpubAccess.Proofs.Reports.Misuse

namespace EpubAccess

open Stateful Gateway

/-- Does the command load a package that belongs to no container? -/
def Command.loadsAlone : Command → Bool
  | .loadPackage _ _ _ => true
  | _ => false

namespace Host

variable {S : Scope} {w w' : Host} {slot dest : String}

/-! ## §1. The container of a package. -/

/-- The handle of the container that a package was attached to, if the container
is there and open. -/
def containerHandle? (w : Host) (p : Package) : Option Handle :=
  p.link.bind fun link => (w.containers.get? link.container).bind fun c => c.handle.get?

/-- A package counts as attached exactly if its container has a handle to give. -/
theorem isAttached_eq (w : Host) (p : Package) :
    w.isAttached p = (w.containerHandle? p).isSome := by
  unfold isAttached containerHandle?
  cases p.link with
  | none => rfl
  | some link =>
    show (w.containers.get? link.container).any _
      = ((w.containers.get? link.container).bind _).isSome
    cases w.containers.get? link.container with
    | none => rfl
    | some c =>
      show (!c.handle.released) = c.handle.get?.isSome
      unfold OwnedHandle.get?
      cases c.handle.released <;> rfl

/-- The package is in the list of a container that stands. -/
def Sheltered (w : Host) (k : PackageId) : Prop :=
  ∃ id c, w.standing? id = some c ∧ k ∈ c.packages

/-- Every open package is in the list of a container that stands. -/
def Housed (w : Host) : Prop :=
  ∀ k p, w.packages.get? k = some p → p.isClosed = false → w.Sheltered k

theorem Housed.fresh : Housed fresh := by
  intro k p hp
  simp [Host.fresh] at hp

/-- A package that a standing container lists gets the handle of that container. -/
theorem Consistent.containerHandle? (hw : Consistent w) {id : ContainerId} {c : Container}
    {k : PackageId} {p : Package} (hst : w.standing? id = some c) (hk : k ∈ c.packages)
    (hp : w.packages.get? k = some p) : w.containerHandle? p = some c.handle.handle := by
  obtain ⟨hc, hopen⟩ := standing?_eq_some.mp hst
  obtain ⟨q, hq, hlink⟩ := hw.members id c hc k hk
  have hqp : q = p := Option.some.inj (hq.symm.trans hp)
  subst hqp
  unfold Host.containerHandle? OwnedHandle.get?
  simp [hlink, hc, hopen]

/-! ## §2. Packages keep their containers. -/

/-- A listed package stays listed for as long as it is open. -/
theorem Later.sheltered (h : Later S w w') {k : PackageId} (hk : w.Sheltered k) :
    w'.Sheltered k ∨ w'.Shut k := by
  obtain ⟨id, c, hst, hmem⟩ := hk
  cases hst' : w'.standing? id with
  | none => exact .inr (h.torn id c hst hst' k hmem)
  | some c' =>
    have hlater := h.container (standing?_eq_some.mp hst).1 (standing?_eq_some.mp hst').1
    exact .inl ⟨id, c', hst', hlater.packages.subset hmem⟩

/-- **A housed host stays housed** if the packages that are new are listed. -/
theorem Later.housed (h : Later S w w') (hw : Housed w)
    (hnew : ∀ k p, w'.packages.get? k = some p → w.packages.next ≤ k → w'.Sheltered k) :
    Housed w' := by
  intro k p' hp' hopen
  rcases h.packages k p' hp' with hlt | ⟨p, hp, hlater⟩
  · exact hnew k p' hp' hlt
  have hbefore : p.isClosed = false := by
    by_contra hclosed
    have hclosed' : p'.isClosed = true := hlater.isClosed (by simpa using hclosed)
    exact absurd (hclosed'.symm.trans hopen) (by simp)
  rcases h.sheltered (hw k p hp hbefore) with hlisted | hshut
  · exact hlisted
  · exact absurd ((hshut.2 p' hp').symm.trans hopen) (by simp)

/-- Work that adds no packages keeps a host housed. -/
theorem Later.housed_of_next (h : Later S w w') (hw : Housed w)
    (hnext : w'.packages.next = w.packages.next) : Housed w' := by
  apply h.housed hw
  intro k p hp hle
  have hlt : k < w'.packages.next := h.after.packageIds k p hp
  omega

/-! ## §3. Containers that are opened. -/

/-- What is there after packages were loaded was there before, or is one of them. -/
theorem loadPackages_back (link : ContainerLink) (config : Config) (hs : List Handle) (w : Host)
    {k : PackageId} {p : Package}
    (hp : (loadPackages link config hs w).2.packages.get? k = some p) :
    w.packages.get? k = some p ∨ k ∈ (loadPackages link config hs w).1 := by
  induction hs generalizing w with
  | nil => exact .inl hp
  | cons h hs ih =>
    unfold loadPackages at hp ⊢
    simp only [bind_apply, through_apply, get_apply, set_apply, pure_apply] at hp ⊢
    rcases ih _ hp with hadded | hlater
    · rcases Pool.get?_add_eq_some.mp hadded with ⟨hk, -⟩ | ⟨-, hold⟩
      · exact .inr (hk ▸ List.mem_cons_self ..)
      · exact .inl hold
    · exact .inr (List.mem_cons_of_mem _ hlater)

/-- **A container that is opened lists the packages that come with it.** -/
theorem openContainer_housed (path : String) (config : Config) (hc : Consistent w)
    (hw : Housed w) : Housed (openContainer path config w).2 := by
  have hlater := openContainer_later (S := .any) path config hc
  apply hlater.housed hw
  clear hlater hw
  intro k p hp hle
  unfold openContainer at hp ⊢
  rw [bind_apply] at hp ⊢
  -- the calls before the packages are loaded leave the objects alone
  have hfirst : ∀ {α : Type} (m : StateM Gateway α) (v : Host),
      (through m v).2.packages = v.packages :=
    fun _ _ => rfl
  have hopen := hfirst (Gateway.openArchive path) w
  generalize through (Gateway.openArchive path) w = r at hopen hp ⊢
  obtain ⟨_ | h, w1⟩ := r
  · have hold : w1.packages.get? k = some p := hp
    rw [show w1.packages = w.packages from hopen] at hold
    exact absurd (hc.packageIds k p hold) (Nat.not_lt.mpr hle)
  simp only [bind_apply, get_apply, set_apply, pure_apply] at hp ⊢
  have hversion := hfirst (Gateway.containerVersion h) w1
  generalize through (Gateway.containerVersion h) w1 = r1 at hversion hp ⊢
  have hpackages := hfirst (Gateway.packages h) r1.2
  generalize through (Gateway.packages h) r1.2 = r2 at hpackages hp ⊢
  have hbefore : r2.2.packages = w.packages := hpackages.trans (hversion.trans hopen)
  have hback := fun hq => loadPackages_back (k := k) (p := p)
    { container := r2.2.containers.next, path } config r2.1 r2.2 hq
  generalize loadPackages { container := r2.2.containers.next, path } config r2.1 r2.2 = r3
    at hback hp ⊢
  have hmem : k ∈ r3.1 := by
    rcases hback hp with hold | hmem
    · rw [hbefore] at hold
      exact absurd (hc.packageIds k p hold) (Nat.not_lt.mpr hle)
    · exact hmem
  let c : Container :=
    { handle := .take h .container, path, version := r1.1, packages := r3.1, config }
  refine ⟨r3.2.containers.next, c, standing?_eq_some.mpr ⟨?_, rfl⟩, hmem⟩
  show (r3.2.containers.add c).2.get? r3.2.containers.next = some c
  exact Pool.get?_add_eq_some.mpr (.inl ⟨rfl, rfl⟩)

/-- A container that is opened into a slot, whatever the slot held before. -/
theorem runOpen_housed (path : String) (config : Config) (hc : Consistent w)
    (hf : w.FetchesFresh) (hw : Housed w) : Housed (runOpen path config dest w).2 := by
  have hhoused := openContainer_housed path config hc hw
  have hlater := openContainer_later (S := .any) path config hc
  have hslots := (openContainer_remarks path config w).2
  unfold runOpen
  rw [bind_apply]
  generalize openContainer path config w = r at hhoused hlater hslots ⊢
  obtain ⟨_ | id, w1⟩ := r
  · exact hhoused
  dsimp only
  rw [get_bind_apply]
  cases hid : w1.containers.get? id with
  | none => exact hhoused
  | some c =>
    have hfresh : w1.FetchesFresh := fun m f hm => hf m f (hslots ▸ hm)
    have hstore : Later .any w1 (store dest (.container id) w1).2 :=
      store_later hlater.after (by simpa [Holding.containers] using ⟨c, hid⟩)
        (by simp [Holding.packages]) trivial
    exact hstore.housed_of_next hhoused (store_notes hfresh dest (.container id)).packages

/-! ## §4. Every command. -/

/-- The host `w'` came out of `w` with an error or without a remark, and no
package was added. -/
def Errs (w w' : Host) : Prop := ∃ r, Notes r w w' ∧ ∀ e ∈ r, e.isError = true

theorem Errs.refl (w : Host) : Errs w w := ⟨none, .refl w, by simp⟩

/-- An operation of a loose handle. -/
theorem runOwned_errs (w : Host) (slot : String) (op : OwnedOp) :
    Errs w (runOwned slot op w).2 := by
  cases op with
  | info => exact withOwned_keeps (.refl w) fun _ _ => .refl w
  | release =>
    refine withOwned_keeps (.refl w) fun x _ => ?_
    refine ⟨x.misuse?, ?_, fun e he => x.isError_of_misuse? he⟩
    exact (Notes.through x.release_remarking w).before (.same rfl rfl)

/-- A command that makes no packages reports a misuse, or a container that is
not there, or nothing. -/
theorem run_reports (hf : w.FetchesFresh) (c : Command) (ho : c.opens = false) :
    ∃ r, Notes r w (run c w).2 ∧ ∀ e ∈ r, e.isError = true ∨ w.unreached? c = some e := by
  cases hl : c.isLoose with
  | true =>
    cases c with
    | owned slot op =>
      obtain ⟨r, hnotes, hr⟩ := runOwned_errs w slot op
      exact ⟨r, hnotes, fun e he => .inl (hr e he)⟩
    | _ => exact absurd hl (by simp [Command.isLoose])
  | false =>
    refine ⟨_, run_notes hf c hl ho, fun e he => ?_⟩
    rcases Option.or_eq_some_iff.mp he with hm | ⟨-, hu⟩
    · exact .inl (isError_of_misuse? hm)
    · exact .inr hu

/-- **Every command keeps a host housed**, but one that loads a package alone. -/
theorem run_housed (hc : Consistent w) (hf : w.FetchesFresh) (hw : Housed w) (c : Command)
    (ha : c.loadsAlone = false) : Housed (run c w).2 := by
  cases ho : c.opens with
  | true =>
    cases c with
    | openContainer path config dest => exact runOpen_housed path config hc hf hw
    | loadPackage => exact absurd ha (by simp [Command.loadsAlone])
    | _ => exact absurd ho (by simp [Command.opens])
  | false =>
    obtain ⟨r, hnotes, -⟩ := run_reports hf c ho
    exact (run_later c hc).housed_of_next hw hnotes.packages

/-- In a housed host every open package is attached. -/
theorem Housed.isAttached (hw : Housed w) (hc : Consistent w) {k : PackageId} {p : Package}
    (hp : w.packages.get? k = some p) (hopen : p.isClosed = false) : w.isAttached p = true := by
  obtain ⟨id, c, hst, hk⟩ := hw k p hp hopen
  rw [isAttached_eq, hc.containerHandle? hst hk hp]
  rfl

/-- Only an open package can miss its container. -/
theorem Housed.unreached?_package (hw : Housed w) (hc : Consistent w) {k : PackageId} {p : Package}
    (hp : w.packages.get? k = some p) (path : String) :
    p.unreached? (w.isAttached p) path = none := by
  unfold Package.unreached?
  cases hr : p.isClosed with
  | true => simp
  | false =>
    rw [hw.isAttached hc hp hr]
    simp

/-- **In a housed host no command misses a container.** -/
theorem Housed.unreached? (hw : Housed w) (hc : Consistent w) (c : Command) :
    w.unreached? c = none := by
  have hpackage : ∀ slot path,
      ((w.packageIn? slot).bind fun p => p.unreached? (w.isAttached p) path) = none := by
    intro slot path
    rw [Option.bind_eq_none_iff]
    intro p hp
    obtain ⟨k, -, hk⟩ := slot_of_packageIn? hp
    exact hw.unreached?_package hc hk path
  have hfetch : ∀ slot f p, w.fetchIn? slot = some (f, p) →
      f.unreached? p (w.isAttached p) = none := by
    intro slot f p hf
    obtain ⟨-, hk⟩ := slot_of_fetchIn? hf
    unfold Fetch.unreached?
    rw [hw.unreached?_package hc hk, ite_self]
  cases c with
  | package slot op =>
    cases op with
    | probeSize path => exact hpackage slot path
    | _ => rfl
  | packageStream slot path mode dest => exact hpackage slot path
  | fetch slot op =>
    show (w.fetchIn? slot).bind _ = none
    rw [Option.bind_eq_none_iff]
    rintro ⟨f, p⟩ hf
    cases op with
    | close => rfl
    | _ => exact hfetch slot f p hf
  | handOver slot ranged dest =>
    show (w.fetchIn? slot).bind _ = none
    rw [Option.bind_eq_none_iff]
    rintro ⟨f, p⟩ hf
    exact hfetch slot f p hf
  | _ => rfl

/-- A command in a housed host that loads no package alone remarks on errors only. -/
theorem run_errs (hc : Consistent w) (hf : w.FetchesFresh) (hw : Housed w) (c : Command)
    (ha : c.loadsAlone = false) :
    ∃ r, w.gateway.Remarks r (run c w).2.gateway ∧ ∀ e ∈ r, e.isError = true := by
  cases ho : c.opens with
  | true =>
    cases c with
    | openContainer path config dest => exact ⟨none, runOpen_remarks hf path config, by simp⟩
    | loadPackage => exact absurd ha (by simp [Command.loadsAlone])
    | _ => exact absurd ho (by simp [Command.opens])
  | false =>
    obtain ⟨r, hnotes, hr⟩ := run_reports hf c ho
    refine ⟨r, hnotes.remarks, fun e he => (hr e he).resolve_right ?_⟩
    rw [hw.unreached? hc c]
    simp

/-! ## §5. Runs. -/

/-- **Every run keeps a host housed** that loads no package alone. -/
theorem housed_after (cs : List Command) (hcs : ∀ c ∈ cs, c.loadsAlone = false) :
    Housed (after cs fresh) := by
  induction cs using List.reverseRecOn with
  | nil => exact .fresh
  | append_singleton cs c ih =>
    have hinit : ∀ d ∈ cs, d.loadsAlone = false := fun d hd => hcs d (List.mem_append_left _ hd)
    rw [after_concat]
    exact run_housed (consistent_after cs) (fetchesFresh_after cs) (ih hinit) c (hcs c (by simp))

/-- A log with errors only among its remarks never says that a container was missed. -/
theorem reached_after (cs : List Command) (hcs : ∀ c ∈ cs, c.loadsAlone = false) (path : String) :
    .resourceUnreachable path ∉ (after cs fresh).gateway.events.toList := by
  induction cs using List.reverseRecOn with
  | nil => exact List.not_mem_nil
  | append_singleton cs c ih =>
    have hinit : ∀ d ∈ cs, d.loadsAlone = false := fun d hd => hcs d (List.mem_append_left _ hd)
    obtain ⟨r, ⟨new, hlog, hnew⟩, hr⟩ := run_errs (consistent_after cs) (fetchesFresh_after cs)
      (housed_after cs hinit) c (hcs c (by simp))
    rw [after_concat, hlog, List.mem_append]
    rintro (hold | hmem)
    · exact ih hinit hold
    · have hremark : .resourceUnreachable path ∈ new.filter Event.isRemark :=
        List.mem_filter.mpr ⟨hmem, rfl⟩
      rw [hnew] at hremark
      exact absurd (hr _ (Option.mem_toList.mp hremark)) (by simp [Event.isError, Event.level])

/-- **An open package always has a container that stands.**  After every run in
which packages are made by opening containers only, whatever else is closed,
dropped, replaced or refused: an open package is in the list of one container
that is there, which is open and whose handle the package gets; and no package
ever missed its container. -/
theorem open_packages_housed (cs : List Command) (hcs : ∀ c ∈ cs, c.loadsAlone = false) :
    (∀ k p, (after cs fresh).packages.get? k = some p → p.isClosed = false →
        ∃ id c, (after cs fresh).containers.get? id = some c ∧ k ∈ c.packages
          ∧ (∀ j b, (after cs fresh).containers.get? j = some b → k ∈ b.packages → j = id)
          ∧ c.isClosed = false
          ∧ (after cs fresh).containerHandle? p = some c.handle.handle
          ∧ (after cs fresh).isAttached p = true)
      ∧ ∀ path, .resourceUnreachable path ∉ (after cs fresh).gateway.events.toList := by
  have hconsistent := consistent_after cs
  have hhoused := housed_after cs hcs
  refine ⟨?_, reached_after cs hcs⟩
  intro k p hp hopen
  obtain ⟨id, c, hst, hk⟩ := hhoused k p hp hopen
  obtain ⟨hc, hr⟩ := standing?_eq_some.mp hst
  refine ⟨id, c, hc, hk, ?_, hr, hconsistent.containerHandle? hst hk hp,
    hhoused.isAttached hconsistent hp hopen⟩
  intro j b hb hk'
  exact hconsistent.member_unique hc hb hk hk'

/-- The container opened, its package refused to it a second time and given up
by its slot: it is open still, since the container lists it. -/
def sampleAttachment : List Command :=
  samplePreparation ++ [.addPackage "container" "package", .drop "package"]

theorem open_packages_housed_sample :
    (∀ c ∈ sampleAttachment, c.loadsAlone = false)
      ∧ ∃ p id c, (after sampleAttachment fresh).packages.get? 0 = some p ∧ p.isClosed = false
        ∧ (after sampleAttachment fresh).containers.get? id = some c ∧ 0 ∈ c.packages
        ∧ (after sampleAttachment fresh).containerHandle? p = some c.handle.handle := by
  have hcs : ∀ c ∈ sampleAttachment, c.loadsAlone = false := by decide
  have hthere : ((after sampleAttachment fresh).packages.get? 0).map Package.isClosed
      = some false := by decide +kernel
  obtain ⟨p, hp, hopen⟩ := Option.map_eq_some_iff.mp hthere
  obtain ⟨id, c, hc, hk, -, -, hhandle, -⟩ :=
    (open_packages_housed sampleAttachment hcs).1 0 p hp hopen
  exact ⟨hcs, p, id, c, hp, hopen, hc, hk, hhandle⟩

end Host

end EpubAccess
