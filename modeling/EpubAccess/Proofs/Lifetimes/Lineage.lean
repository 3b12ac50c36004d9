/-
  EpubAccess.Proofs.Lifetimes.Lineage
  ────────────────────────────────
  Packages in the engine and packages in a host.

  The engine remembers for a live package the container that it was opened
  from, and the host remembers by a link the container that it was attached to.
  `Host.Lineage` says that the two agree, whatever handles are given back behind
  the library: numbers are never issued again, so a package that is live under an
  old number was live under it before (`Engine.Fades`).

  Whatever a host is asked for, it reaches the engine by calls and registrations
  alone (`Host.run_asks`).  So the lineage is kept where nothing is added
  (`Lineage.later_of_next`); new packages come from the opening of a container,
  which the engine issues them to (`Host.openContainer_lineage`).
-/
import EpubAccess.Proofs.Fetches.Apart
import EpubAccess.Proofs.Lifetimes.Attachment
import EpubAccess.Proofs.Packages.Opening

namespace EpubAccess

open Stateful Gateway

/-! ## §1. What is live under an old number. -/

namespace Engine

variable {e e' e'' : Engine}

/-- A package that is live under a handle issued before was live there before. -/
def Fades (e e' : Engine) : Prop :=
  ∀ (h : Handle) q a i, e.Issued h → e'.live[h]? = some (.package q a i) →
    e.live[h]? = some (.package q a i)

theorem Fades.same (h : e'.live = e.live) : Fades e e' := fun _ _ _ _ _ ho => h ▸ ho

theorem Fades.trans (h : Fades e e') (hle : e.issued ≤ e'.issued) (h' : Fades e' e'') :
    Fades e e'' :=
  fun x q a i hx ho => h x q a i hx (h' x q a i (hx.mono hle) ho)

/-- A call brings no package under an old number. -/
theorem Outcome.fades {r : Request} {reply : Reply} (ho : Outcome r e reply e') : Fades e e' := by
  cases ho with
  | answered | refused | dangled => exact .same rfl
  | issued os =>
    rintro _ q a i ⟨n, hn, rfl⟩ hlive
    have hold : ∀ j < os.length,
        Handle.issuedAfter n ≠ .issuedAfter ((e.record r.call).issued + j) := by
      intro j _ heq
      have hnumber : n = e.issued + j := Handle.issuedAfter_injective heq
      omega
    rw [live_issueAll_old os hold] at hlive
    exact hlive
  | moved h c c' =>
    intro x q a i _ hlive
    have hinsert : (e.live.insert h (.stream c'))[x]? = some (.package q a i) := hlive
    rw [Std.ExtTreeMap.getElem?_insert] at hinsert
    split at hinsert
    · exact absurd hinsert (by simp)
    · exact hinsert
  | returned h o =>
    intro x q a i _ hlive
    have herase : (e.live.erase h)[x]? = some (.package q a i) := hlive
    rw [Std.ExtTreeMap.getElem?_erase] at herase
    split at herase
    · exact absurd herase (by simp)
    · exact herase

theorem use_fades (he : e.InOrder) (u : EngineUse) : Fades e (e.use u) := by
  cases u with
  | register path archive => exact .same rfl
  | ask r => exact (perform_outcome he r).fades

/-- **Nor does any number of uses.** -/
theorem afterUses_fades (us : List EngineUse) (he : e.InOrder) :
    e.issued ≤ (e.afterUses us).issued ∧ Fades e (e.afterUses us) := by
  induction us generalizing e with
  | nil => exact ⟨Nat.le_refl _, .same rfl⟩
  | cons u us ih =>
    obtain ⟨n, hn, -⟩ := given_eq he u
    have hle : e.issued ≤ (e.use u).issued := by omega
    obtain ⟨hrest, hfades⟩ := ih (use_inOrder he u)
    exact ⟨Nat.le_trans hle hrest, (use_fades he u).trans hle hfades⟩

/-- The handle was issued, and no package is live under it. -/
def Rooted (e : Engine) (h : Handle) : Prop :=
  e.Issued h ∧ ∀ q a i, e.live[h]? ≠ some (.package q a i)

theorem Rooted.ahead {h : Handle} (hh : e.Rooted h) (hle : e.issued ≤ e'.issued)
    (hfades : Fades e e') : e'.Rooted h :=
  ⟨hh.1.mono hle, fun q a i hlive => hh.2 q a i (hfades h q a i hh.1 hlive)⟩

/-- An archive is opened under a handle of its own. -/
theorem openArchive_rooted {path : String} {h : Handle} (hh : (e.openArchive path).1 = some h) :
    (e.openArchive path).2.Rooted h := by
  unfold openArchive at hh ⊢
  dsimp only at hh ⊢
  split at hh
  · next ha =>
    obtain rfl := Option.some.inj hh
    rw [if_pos ha]
    refine ⟨⟨e.issued, Nat.lt_succ_self _, rfl⟩, fun q a i => ?_⟩
    show (e.live.insert (Handle.issuedAfter e.issued) (.container path))[
      Handle.issuedAfter e.issued]? ≠ _
    rw [Std.ExtTreeMap.getElem?_insert_self]
    simp
  · exact absurd hh (by simp)

/-- The package objects that are new after packages were asked for are those of
the container that was named. -/
theorem allocatePackages_child (c : Handle) (archive : String) (count : Nat) {h q : Handle}
    {a : String} {i : Nat} (e : Engine) (index : Nat)
    (hlive : (e.allocatePackages c archive index count).2.live[h]? = some (.package q a i)) :
    e.live[h]? = some (.package q a i) ∨ q = c := by
  induction count generalizing e index with
  | zero => exact .inl hlive
  | succ count ih =>
    rcases ih (e.allocate (.package c archive index)).2 (index + 1) hlive with hfirst | hnew
    · have hinsert : (e.live.insert (Handle.issuedAfter e.issued)
          (.package c archive index))[h]? = some (.package q a i) := hfirst
      rw [Std.ExtTreeMap.getElem?_insert] at hinsert
      split at hinsert
      · cases hinsert
        exact .inr rfl
      · exact .inl hinsert
    · exact .inr hnew

/-- **Packages are issued to the container that asks**, under new numbers. -/
theorem packages_issued (he : e.InOrder) (c : Handle) {h : Handle} (hh : h ∈ (e.packages c).1) :
    (e.packages c).2.Issued h
      ∧ ∀ q a i, (e.packages c).2.live[h]? = some (.package q a i) → q = c := by
  obtain ⟨n, hn, hhanded⟩ := (perform_outcome he (.packages c)).handed_eq
  have hn : (e.packages c).2.issued = e.issued + n := hn
  have hhanded : (e.packages c).1 = (List.range' e.issued n).map Handle.issuedAfter := hhanded
  rw [hhanded, List.mem_map] at hh
  obtain ⟨m, hm, rfl⟩ := hh
  rw [List.mem_range'_1] at hm
  refine ⟨⟨m, by omega, rfl⟩, fun q a i hlive => ?_⟩
  have hchild : e.live[Handle.issuedAfter m]? = some (.package q a i) ∨ q = c := by
    unfold packages onContainer at hlive
    split at hlive
    · exact allocatePackages_child c _ _ (e.record (.packages c)) 0 hlive
    · exact .inl hlive
  refine hchild.resolve_left fun hold => ?_
  -- a handle that is live was issued, and this one is new
  have hmem : Handle.issuedAfter m ∈ e.live := by
    rw [Std.ExtTreeMap.mem_iff_isSome_getElem?, hold]
    rfl
  obtain ⟨j, hj, heq⟩ := (he.known _).mpr (.inl hmem)
  have hnumber := Handle.issuedAfter_injective heq
  omega

end Engine

theorem Gateway.openArchive_rooted {g : Gateway} {path : String} {h : Handle}
    (hh : (Gateway.openArchive path g).1 = some h) :
    (Gateway.openArchive path g).2.engine.Rooted h := by
  unfold Gateway.openArchive refusable at hh ⊢
  split at hh
  · exact Engine.openArchive_rooted hh
  · exact absurd hh (by simp)

namespace Host

variable {S : Scope} {w w' w'' : Host} {slot dest : String}

/-! ## §2. How a host uses its engine. -/

/-- The host went on by calls and registrations. -/
def Asks (w w' : Host) : Prop := ∃ us, w'.gateway.engine = w.gateway.engine.afterUses us

instance : IsPreorder Host Asks where
  refl _ := ⟨[], rfl⟩
  trans _ _ _ h h' := by
    obtain ⟨us, hus⟩ := h
    obtain ⟨us', hus'⟩ := h'
    exact ⟨us ++ us', by
      rw [hus', hus, Engine.afterUses, Engine.afterUses, ← List.foldl_append]; rfl⟩

theorem Asks.same (h : w'.gateway.engine = w.gateway.engine) : Asks w w' := ⟨[], h⟩

/-- Calls are uses. -/
theorem Asks.served (h : w.gateway.engine.Served w'.gateway.engine) : Asks w w' := by
  obtain ⟨rs, -, hrs⟩ := h
  exact ⟨rs.map .ask, by rw [← hrs, Engine.afterUses, List.foldl_map]; rfl⟩

theorem navigation_asks (p : Package) (kind : NavKind) :
    Along Asks (through (p.navigation kind)) := by
  intro w
  rw [through_apply]
  unfold Package.navigation Package.live
  cases p.handle.get? with
  | none => exact .same rfl
  | some h =>
    dsimp only
    rw [bind_apply, pure_apply]
    dsimp only
    cases p.navigationCache kind with
    | some known => exact .same rfl
    | none => exact ⟨[.ask (.navigation h kind)], rfl⟩

theorem asks_gatewise : Gatewise Asks where
  through hm w := .served (hm w.gateway).1.served
  navigation := navigation_asks
  rest _ _ hg := .same (congrArg Gateway.engine hg)

theorem runRequest_asks (r : Request) : Along Asks (runRequest r) := by
  intro w
  have hask : Asks w (through (Gateway.call fun e => e.perform r) w).2 := ⟨[.ask r], rfl⟩
  unfold runRequest
  rw [bind_apply]
  generalize through (Gateway.call fun e => e.perform r) w = x at hask ⊢
  obtain ⟨reply, w1⟩ := x
  cases reply with
  | released notice => exact trans_of Asks hask (asks_gatewise.through (.emit? notice) w1)
  | _ => exact hask

/-- **Whatever a host is asked for**, it uses the engine as any client could. -/
theorem run_asks (c : Command) : Along Asks (run c) := by
  intro w
  cases c with
  | register path archive => exact ⟨[.register path archive], rfl⟩
  | inject fault => exact .same rfl
  | engine r => exact runRequest_asks r w
  | openContainer path config dest =>
    exact asks_gatewise.slotwise.runOpen (asks_gatewise.poolwise.openContainer path config) w
  | loadPackage h config dest =>
    exact Along.bind (asks_gatewise.poolwise.loadPackage h config)
      (fun _ => .bind (asks_gatewise.slotwise.storePlain rfl) fun _ => .pure _) w
  | _ => exact asks_gatewise.slotwise.run _ rfl w

/-- Uses keep the books in order, take no number back and bring no package under
an old one. -/
theorem Asks.ahead (h : Asks w w') (he : w.gateway.engine.InOrder) :
    w'.gateway.engine.InOrder ∧ w.gateway.engine.issued ≤ w'.gateway.engine.issued
      ∧ w.gateway.engine.Fades w'.gateway.engine := by
  obtain ⟨us, hus⟩ := h
  rw [hus]
  exact ⟨Engine.afterUses_inOrder us he, Engine.afterUses_fades us he⟩

/-- The host went on without a new container. -/
def AddsNone (w w' : Host) : Prop := w'.containers.next = w.containers.next

instance : IsPreorder Host AddsNone where
  refl _ := rfl
  trans _ _ _ h h' := h'.trans h

theorem addPackage_addsNone (id : ContainerId) (k : PackageId) :
    Along AddsNone (addPackage id k) := by
  refine .get_bind fun w => ?_
  cases w.containers.get? id with
  | none => exact refl_of AddsNone w
  | some c =>
    cases w.packages.get? k with
    | none => exact refl_of AddsNone w
    | some p =>
      dsimp only
      cases p.attach? { container := id, path := c.path } with
      | none => exact refl_of AddsNone w
      | some p => rfl

theorem addsNone_slotwise : Slotwise AddsNone where
  through _ _ := rfl
  closePackage k w := congrArg Pool.next (closePackage_closings k w).containers
  removePackage _ _ := rfl
  put _ _ _ _ := rfl
  erase _ _ := rfl
  rest _ _ _ _ _ hnext := hnext
  fill _ _ _ := rfl
  navigation _ _ _ := rfl
  setPackage _ _ _ := rfl
  addPackage := addPackage_addsNone

theorem runRequest_addsNone (r : Request) : Along AddsNone (runRequest r) := by
  refine .bind (fun _ => rfl) fun reply => ?_
  cases reply with
  | released notice => exact .bind (addsNone_slotwise.through (.emit? notice)) fun _ => .pure _
  | _ => exact .pure _

/-- **Only an opening adds a container.** -/
theorem run_addsNone {c : Command} (hc : c.opens = false) : Along AddsNone (run c) := by
  intro w
  cases c with
  | openContainer | loadPackage => exact absurd hc (by simp [Command.opens])
  | register | inject => exact refl_of AddsNone w
  | engine r => exact runRequest_addsNone r w
  | _ => exact addsNone_slotwise.run _ rfl w

/-! ## §3. Where packages come from. -/

/-- The package is linked to a container, under a handle that was issued.  If the
container is there and the package is live, the engine opened it from that
container. -/
structure Offspring (w : Host) (p : Package) : Prop where
  linked : ∃ link, p.link = some link ∧ link.container < w.containers.next
  issued : w.gateway.engine.Issued p.handle.handle
  parent : ∀ link c q a i, p.link = some link → w.containers.get? link.container = some c →
    w.gateway.engine.live[p.handle.handle]? = some (.package q a i) → q = c.handle.handle

/-- Every package descends from its container, and no container stands under the
handle of a package. -/
structure Lineage (w : Host) : Prop where
  packages : ∀ k p, w.packages.get? k = some p → w.Offspring p
  containers : ∀ id c, w.containers.get? id = some c → w.gateway.engine.Rooted c.handle.handle

theorem Lineage.fresh : Lineage fresh := by
  refine ⟨fun k p hp => ?_, fun id c hc => ?_⟩
  · simp [Host.fresh] at hp
  · simp [Host.fresh] at hc

/-- A later state of a package descends from the same container. -/
theorem Offspring.later {p p' : Package} (h : w.Offspring p) (hp : p.Later p')
    (hlater : Later S w w')
    (hasks : Asks w w') (he : w.gateway.engine.InOrder) : w'.Offspring p' := by
  obtain ⟨-, hle, hfades⟩ := hasks.ahead he
  obtain ⟨link, hlink, hlt⟩ := h.linked
  have hlink' := hp.link link hlink
  refine ⟨⟨link, hlink', Nat.lt_of_lt_of_le hlt hlater.containersNext⟩, ?_, ?_⟩
  · rw [hp.handle.handle]
    exact h.issued.mono hle
  · intro l c' q a i hl hc' hlive
    obtain rfl : link = l := Option.some.inj (hlink'.symm.trans hl)
    rw [hp.handle.handle] at hlive
    rcases hlater.containers link.container c' hc' with hnew | ⟨c, hc, hsame, -⟩
    · exact absurd hlt (Nat.not_lt.mpr hnew)
    · rw [hsame.handle.handle]
      exact h.parent link c q a i hlink hc (hfades _ q a i h.issued hlive)

/-- **A host keeps its lineage** if what is new fits. -/
theorem Lineage.later (h : Lineage w) (hlater : Later S w w') (hasks : Asks w w')
    (he : w.gateway.engine.InOrder)
    (hpackages : ∀ k p, w'.packages.get? k = some p → w.packages.next ≤ k → w'.Offspring p)
    (hcontainers : ∀ id c, w'.containers.get? id = some c → w.containers.next ≤ id →
      w'.gateway.engine.Rooted c.handle.handle) : Lineage w' := by
  obtain ⟨-, hle, hfades⟩ := hasks.ahead he
  refine ⟨fun k p' hp' => ?_, fun id c' hc' => ?_⟩
  · rcases hlater.packages k p' hp' with hlt | ⟨p, hp, hl⟩
    · exact hpackages k p' hp' hlt
    · exact (h.packages k p hp).later hl hlater hasks he
  · rcases hlater.containers id c' hc' with hlt | ⟨c, hc, hl, -⟩
    · exact hcontainers id c' hc' hlt
    · rw [hl.handle.handle]
      exact (h.containers id c hc).ahead hle hfades

/-- Work that adds nothing keeps the lineage. -/
theorem Lineage.later_of_next (h : Lineage w) (hlater : Later S w w') (hasks : Asks w w')
    (he : w.gateway.engine.InOrder) (hpackages : w'.packages.next = w.packages.next)
    (hcontainers : AddsNone w w') : Lineage w' := by
  refine h.later hlater hasks he (fun k p hp hle => ?_) fun id c hc hle => ?_
  · have hlt : k < w'.packages.next := hlater.after.packageIds k p hp
    omega
  · have hlt : id < w'.containers.next := hlater.after.containerIds id c hc
    exact absurd hle (Nat.not_le.mpr (hcontainers ▸ hlt))

/-! ## §4. Containers that are opened. -/

/-- What is there after packages were loaded was there before, or it is linked as
told, over one of the handles. -/
theorem loadPackages_origin (link : ContainerLink) (config : Config) (hs : List Handle) (w : Host)
    {k : PackageId} {p : Package}
    (hp : (loadPackages link config hs w).2.packages.get? k = some p) :
    w.packages.get? k = some p ∨ p.link = some link ∧ p.handle.handle ∈ hs := by
  induction hs generalizing w with
  | nil => exact .inl hp
  | cons h hs ih =>
    have hload := (Package.load_forward h config w.gateway).2.1
    unfold loadPackages at hp
    simp only [bind_apply, through_apply, get_apply, set_apply, pure_apply] at hp
    generalize Package.load h config w.gateway = r at hload hp
    rcases ih _ hp with hadded | ⟨hlink, hmem⟩
    · rcases Pool.get?_add_eq_some.mp hadded with ⟨-, rfl⟩ | ⟨-, hold⟩
      · refine .inr ⟨rfl, ?_⟩
        show r.1.handle.handle ∈ h :: hs
        rw [hload]
        exact List.mem_cons_self ..
      · exact .inl hold
    · exact .inr ⟨hlink, List.mem_cons_of_mem _ hmem⟩

/-- An archive is not opened, or a container is made for its handle, with the
packages that the engine issued to it. -/
theorem openContainer_cases (path : String) (config : Config) (he : w.gateway.engine.InOrder) :
    (∃ g, (openContainer path config w).2 = { w with gateway := g })
      ∨ ∃ h hs g c events, g.engine.InOrder ∧ g.engine.Rooted h
        ∧ (∀ x ∈ hs, g.engine.Issued x
            ∧ ∀ q a i, g.engine.live[x]? = some (.package q a i) → q = h)
        ∧ c.handle = .take h .container
        ∧ (openContainer path config w).2
            = let r := (loadPackages ⟨w.containers.next, path⟩ config hs { w with gateway := g }).2
              { r with
                containers := (r.containers.add c).2
                gateway := { r.gateway with events := events } } := by
  have he1 := ((asks_gatewise.through (Gateway.openArchive_onward path) w).ahead he).1
  have hrooted : ∀ h, (Gateway.openArchive path w.gateway).1 = some h →
      (Gateway.openArchive path w.gateway).2.engine.Rooted h :=
    fun _ hh => Gateway.openArchive_rooted hh
  rw [through_apply] at he1
  cases hopen : Gateway.openArchive path w.gateway with
  | mk h? g1 =>
    rw [hopen] at he1 hrooted
    cases h? with
    | none =>
      refine .inl ⟨g1, ?_⟩
      unfold openContainer
      simp only [bind_apply, through_apply, hopen, pure_apply]
    | some h =>
      obtain ⟨he2, hle2, hfades2⟩ := (asks_gatewise.through (Gateway.containerVersion_onward h)
        { w with gateway := g1 }).ahead he1
      obtain ⟨he3, hle3, hfades3⟩ := (asks_gatewise.through (Gateway.packages_onward h)
        { w with gateway := (Gateway.containerVersion h g1).2 }).ahead he2
      refine .inr ⟨h, _, _, _, _, he3, ?_, fun x hx => Engine.packages_issued he2 h hx, rfl,
        congrArg Prod.snd (openContainer_of_steps hopen rfl rfl rfl)⟩
      exact ((hrooted h rfl).ahead hle2 hfades2).ahead hle3 hfades3

/-- **A container that is opened has the packages that the engine issued to it.** -/
theorem openContainer_lineage (path : String) (config : Config) (hc : Consistent w)
    (he : w.gateway.engine.InOrder) (hw : Lineage w) :
    Lineage (openContainer path config w).2 := by
  have hlater := openContainer_later (S := .any) path config hc
  have hasks := asks_gatewise.poolwise.openContainer path config w
  rcases openContainer_cases path config he
    with ⟨g, heq⟩ | ⟨h, hs, g, c, events, heg, hrooted, hissued, hhandle, heq⟩
  · rw [heq] at hlater hasks ⊢
    exact hw.later_of_next hlater hasks he rfl rfl
  have horigin := fun k p hp => loadPackages_origin (k := k) (p := p)
    ⟨w.containers.next, path⟩ config hs { w with gateway := g } hp
  have hload : Asks { w with gateway := g } _ :=
    asks_gatewise.poolwise.loadPackages ⟨w.containers.next, path⟩ config hs { w with gateway := g }
  obtain ⟨-, hle, hfades⟩ := hload.ahead heg
  have hnext : (loadPackages ⟨w.containers.next, path⟩ config hs
      { w with gateway := g }).2.containers = w.containers := by
    rw [loadPackages_eq]
  rw [heq] at hlater hasks ⊢
  generalize (loadPackages ⟨w.containers.next, path⟩ config hs { w with gateway := g }).2 = r
    at horigin hle hfades hnext hlater hasks ⊢
  dsimp only at hlater hasks ⊢
  -- the one container that is new is the one of the packages that are new
  have hself : ∀ id b, (r.containers.add c).2.get? id = some b → w.containers.next ≤ id →
      b.handle.handle = h := by
    intro id b hb hle
    rcases Pool.get?_add_eq_some.mp hb with ⟨-, rfl⟩ | ⟨-, hold⟩
    · rw [hhandle]
      rfl
    · rw [hnext] at hold
      exact absurd (hc.containerIds id b hold) (Nat.not_lt.mpr hle)
  refine hw.later hlater hasks he (fun k p hp hk => ?_) fun id b hb hid => ?_
  · obtain ⟨hlink, hmem⟩ : p.link = some ⟨w.containers.next, path⟩ ∧ p.handle.handle ∈ hs :=
      (horigin k p hp).resolve_left fun hold => absurd (hc.packageIds k p hold) (Nat.not_lt.mpr hk)
    obtain ⟨hnumber, hparent⟩ := hissued _ hmem
    refine ⟨⟨_, hlink, ?_⟩, hnumber.mono hle, fun link b q a i hl hb hlive => ?_⟩
    · show w.containers.next < r.containers.next + 1
      rw [hnext]
      exact Nat.lt_succ_self _
    · obtain rfl : _ = link := Option.some.inj (hlink.symm.trans hl)
      rw [hself _ b hb (Nat.le_refl _)]
      exact hparent q a i (hfades _ q a i hnumber hlive)
  · show r.gateway.engine.Rooted b.handle.handle
    rw [hself id b hb hid]
    exact hrooted.ahead hle hfades

/-- A container that is opened into a slot, whatever the slot held before. -/
theorem runOpen_lineage (path : String) (config : Config) (hc : Consistent w)
    (hf : w.FetchesFresh) (he : w.gateway.engine.InOrder) (hw : Lineage w) :
    Lineage (runOpen path config dest w).2 := by
  have hlineage := openContainer_lineage path config hc he hw
  have hlater := openContainer_later (S := .any) path config hc
  have hslots := (openContainer_remarks path config w).2
  have he1 := ((asks_gatewise.poolwise.openContainer path config w).ahead he).1
  unfold runOpen
  rw [bind_apply]
  generalize openContainer path config w = r at hlineage hlater hslots he1 ⊢
  obtain ⟨_ | id, w1⟩ := r
  · exact hlineage
  dsimp only
  rw [get_bind_apply]
  cases hid : w1.containers.get? id with
  | none => exact hlineage
  | some c =>
    have hfresh : w1.FetchesFresh := fun m f hm => hf m f (hslots ▸ hm)
    have hstore : Later .any w1 (store dest (.container id) w1).2 :=
      store_later hlater.after (by simpa [Holding.containers] using ⟨c, hid⟩)
        (by simp [Holding.packages]) trivial
    exact hlineage.later_of_next hstore (asks_gatewise.slotwise.storePlain rfl w1) he1
      (store_notes hfresh dest (.container id)).packages (addsNone_slotwise.storePlain rfl w1)

/-! ## §5. Every command, and every run. -/

/-- **Every command keeps the lineage**, but one that loads a package alone. -/
theorem run_lineage (hc : Consistent w) (hf : w.FetchesFresh) (he : w.gateway.engine.InOrder)
    (hw : Lineage w) (c : Command) (ha : c.loadsAlone = false) : Lineage (run c w).2 := by
  cases ho : c.opens with
  | true =>
    cases c with
    | openContainer path config dest => exact runOpen_lineage path config hc hf he hw
    | loadPackage => exact absurd ha (by simp [Command.loadsAlone])
    | _ => exact absurd ho (by simp [Command.opens])
  | false =>
    obtain ⟨r, hnotes, -⟩ := run_reports hf c ho
    exact hw.later_of_next (run_later c hc) (run_asks c w) he hnotes.packages (run_addsNone ho w)

/-- **Every run keeps the lineage** that loads no package alone. -/
theorem lineage_after (cs : List Command) (hcs : ∀ c ∈ cs, c.loadsAlone = false) :
    Lineage (after cs fresh) := by
  induction cs using List.reverseRecOn with
  | nil => exact .fresh
  | append_singleton cs c ih =>
    have hinit : ∀ d ∈ cs, d.loadsAlone = false := fun d hd => hcs d (List.mem_append_left _ hd)
    rw [after_concat]
    exact run_lineage (consistent_after cs) (fetchesFresh_after cs) (orderly_after cs .fresh).engine
      (ih hinit) c (hcs c (by simp))

end Host

end EpubAccess
