/-
  EpubAccess.Proofs.Ownership.Loading
  ────────────────────────────────
  Containers that are opened, and what packages are asked.

  A question to a package uses the engine for that package alone
  (`Package.property_only` and the like), and so does loading one
  (`Package.load_only`).  Opening an archive leaves the new container and the
  new packages in hand, each package of that container; then they are put at
  their places (`openContainer_reaches`).
-/
import EpubAccess.Proofs.Ownership.Owners

namespace EpubAccess

open Stateful

/-! ## §1. Questions to a package. -/

namespace Gateway

variable {h : Handle} {α : Type}

/-- A recorded question to a package uses that package alone. -/
theorem call_package_only (c : Call) (hc : c.isRelease = false) (hh : c.handle? = some h)
    (absent : α) (f : PackageDescription → α) :
    Only .package (some h) (fun _ => True) (call fun e => (e.record c).onPackage h absent f) := by
  intro g hg
  obtain ⟨o, ho, hk⟩ := serves_object hg
  cases o with
  | container a => simp [LiveObject.kind] at hk
  | stream cur => simp [LiveObject.kind] at hk
  | package x a i =>
    have hrec := g.engine.uses_record c hc
    rw [hh] at hrec
    refine ⟨⟨?_, id⟩, trivial⟩
    show g.engine.Uses (some h) ((g.engine.record c).onPackage h absent f).2
    rw [Engine.onPackage_snd (g.engine.record c) ho]
    exact hrec

theorem metadata_only (field : MetadataField) :
    Only .package (some h) (fun _ => True) (metadata h field) :=
  call_package_only _ rfl rfl _ _

theorem property_only (name vocabulary : String) :
    Only .package (some h) (fun _ => True) (property h name vocabulary) :=
  call_package_only _ rfl rfl _ _

theorem hasProperty_only (name vocabulary : String) :
    Only .package (some h) (fun _ => True) (hasProperty h name vocabulary) :=
  call_package_only _ rfl rfl _ _

theorem navigation_only (kind : NavKind) :
    Only .package (some h) (fun _ => True) (navigation h kind) :=
  call_package_only _ rfl rfl _ _

theorem probeSize_only (path : String) :
    Only .package (some h) (fun _ => True) (probeSize h path) :=
  .answerable _ _ _ rfl (call_package_only _ rfl rfl _ _)

/-- What is gathered over a list, one question at a time. -/
theorem Only.foldlM {β : Type} {kind : HandleKind} {h? : Option Handle}
    {f : α → β → StateM Gateway α} (hf : ∀ a b, Only kind h? (fun _ => True) (f a b))
    (l : List β) (a : α) : Only kind h? (fun _ => True) (l.foldlM f a) := by
  induction l generalizing a with
  | nil => exact .pure trivial
  | cons b l ih =>
    rw [List.foldlM_cons]
    exact .bind (hf a b) fun a' _ => ih a'

end Gateway

namespace Package

open Gateway

/-- Loading a package uses that package alone, and gives one over the handle
that is attached to nothing. -/
theorem load_only (h : Handle) (config : Config) :
    Only .package (some h) (fun p => p.handle = .take h .package ∧ p.link = none)
      (Package.load h config) := by
  have hquestion : ∀ {α : Type} (c : Call) (_ : c.isRelease = false) (_ : c.handle? = some h)
      (absent : α) (f : PackageDescription → α),
      Only .package (some h) (fun _ => True) (call fun e => (e.record c).onPackage h absent f) :=
    fun c hc hh absent f => call_package_only c hc hh absent f
  have hfield : ∀ m field, Only .package (some h) (fun _ => True) (loadField h m field) :=
    fun _ _ => .bind (metadata_only _) fun _ _ => .pure trivial
  have hmetadata : Only .package (some h) (fun _ => True) (loadMetadata h) :=
    .bind (.foldlM hfield _ _) fun _ _ =>
    .bind (hquestion _ rfl rfl _ _) fun _ _ => .bind (hquestion _ rfl rfl _ _) fun _ _ =>
    .bind (property_only _ _) fun _ _ => .bind (property_only _ _) fun _ _ =>
    .bind (property_only _ _) fun _ _ => .bind (property_only _ _) fun _ _ => .pure trivial
  exact .bind hmetadata fun _ _ => .bind (hquestion _ rfl rfl _ _) fun _ _ =>
    .bind (hquestion _ rfl rfl _ _) fun _ _ => .bind (hquestion _ rfl rfl _ _) fun _ _ =>
    .bind (.emit _) fun _ _ => .pure ⟨rfl, rfl⟩

variable (p : Package)

/-- A closed package answers `f none` after a report, an open one `f` of its handle. -/
theorem live_bind_only {β : Type} {post : β → Prop} {f : Option Handle → StateM Gateway β}
    {x : PackageAccess} (hn : Only .package p.handle.get? post (f none))
    (hs : ∀ h, p.handle.get? = some h → Only .package (some h) post (f (some h))) :
    Only .package p.handle.get? post (p.live x >>= f) := by
  unfold live
  cases hh : p.handle.get? with
  | none =>
    rw [hh] at hn
    exact .bind (.bind (.emit _) fun _ _ => .pure rfl) fun _ (ha : none = _) => ha ▸ hn
  | some h => exact hs h hh

theorem property_only (name vocabulary : String) :
    Only .package p.handle.get? (fun _ => True) (p.property name vocabulary) :=
  p.live_bind_only (.pure trivial) fun _ _ => Gateway.property_only _ _

theorem hasProperty_only (name vocabulary : String) :
    Only .package p.handle.get? (fun _ => True) (p.hasProperty name vocabulary) :=
  p.live_bind_only (.pure trivial) fun _ _ => Gateway.hasProperty_only _ _

/-- Asking for a navigation table leaves the same package. -/
theorem navigation_only (kind : NavKind) :
    Only .package p.handle.get? (fun r => r.2.handle = p.handle ∧ r.2.link = p.link)
      (p.navigation kind) := by
  refine p.live_bind_only (.pure ⟨rfl, rfl⟩) fun h _ => ?_
  dsimp only
  split
  · exact .pure ⟨rfl, rfl⟩
  · exact .bind (.emit _) fun _ _ => .bind (Gateway.navigation_only _) fun _ _ => .pure ⟨rfl, rfl⟩

theorem probeSize_only (attached : Bool) (path : String) :
    Only .package p.handle.get? (fun _ => True) (p.probeSize attached path) := by
  refine p.live_bind_only (.pure trivial) fun h _ => ?_
  cases attached with
  | false =>
    exact .bind (.bind (.emit _) fun _ _ => .pure rfl) fun _ (ha : false = _) => ha ▸ .pure trivial
  | true => exact .bind (.pure rfl) fun _ (ha : true = _) =>
      ha ▸ .bind (Gateway.probeSize_only _) fun _ _ => .pure trivial

theorem describe_only :
    Only .package p.handle.get? (fun _ => True) p.describe := by
  unfold describe
  dsimp only
  split
  · exact .bind (.emit _) fun _ _ => .pure trivial
  · exact .pure trivial

end Package

/-! ## §2. An archive opened. -/

section Opening

variable {ι : Type} {held : ι → Option OwnedHandle} {loose : List OwnedHandle} {g : Gateway}

open Gateway

/-- Opening an archive leaves a container in hand, or nothing. -/
theorem Gateway.openArchive_moved (l : Ledger g.engine held loose) (path : String) :
    Moved held ((openArchive path g).1.toList.map (OwnedHandle.take · .container) ++ loose) g
      (openArchive path g).2 := by
  -- a call about no handle disturbs nobody
  have hrec : Moved held loose g { g with engine := g.engine.record (.open path) } :=
    .of_uses l ⟨g.engine.uses_record (.open path) rfl, id⟩
      (fun h hh => absurd hh (by simp [Call.handle?]))
      fun i x _ hh => absurd hh (by simp [Call.handle?])
  unfold openArchive refusable
  split
  · by_cases hp : path ∈ (g.engine.record (.open path)).archives
    · have hrun : call (·.openArchive path) g
          = (some ((g.engine.record (.open path)).allocate (.container path)).1,
            { g with
              engine := ((g.engine.record (.open path)).allocate (.container path)).2 }) := by
        unfold call Engine.openArchive
        simp only [if_pos hp]
      rw [hrun]
      exact hrec.trans (.issue hrec.ledger (.container path))
    · have hrun : call (·.openArchive path) g
          = (none, { g with engine := g.engine.record (.open path) }) := by
        unfold call Engine.openArchive
        simp only [if_neg hp]
      rw [hrun]
      exact hrec
  · next n hn =>
    refine ⟨l, ⟨rfl, fun _ _ _ => rfl, ⟨[], by simp, by simp⟩, rfl⟩, fun hc => ?_⟩
    rw [hc] at hn
    exact absurd hn (by simp [Faults.none])

/-- Asking for the version uses the container alone. -/
theorem Gateway.containerVersion_only {h : Handle} :
    Only .container (some h) (fun _ => True) (containerVersion h) := by
  intro g hg
  obtain ⟨o, ho, hk⟩ := serves_object hg
  cases o with
  | package x a i => simp [LiveObject.kind] at hk
  | stream cur => simp [LiveObject.kind] at hk
  | container a =>
    refine ⟨⟨?_, id⟩, trivial⟩
    show g.engine.Uses (some h) (g.engine.containerVersion h).2
    unfold Engine.containerVersion Engine.onContainer
    rw [show (g.engine.record (.containerVersion h)).live[h]? = some (.container a) from ho]
    exact g.engine.uses_record (.containerVersion h) rfl

/-- New packages of a container, in hand. -/
theorem Gateway.Moved.allocatePackages (l : Ledger g.engine held loose) (c : Handle)
    (archive : String) (index count : Nat) :
    Moved held
        ((g.engine.allocatePackages c archive index count).1.map (OwnedHandle.take · .package)
          ++ loose)
        g { g with engine := (g.engine.allocatePackages c archive index count).2 }
      ∧ (∀ h : Handle, g.engine.Issued h →
          (g.engine.allocatePackages c archive index count).2.live[h]? = g.engine.live[h]?)
      ∧ ∀ h ∈ (g.engine.allocatePackages c archive index count).1, ∃ i,
          (g.engine.allocatePackages c archive index count).2.live[h]?
            = some (.package c archive i) := by
  -- the induction is on the packages to come; the objects issued so far stay
  induction count generalizing g loose index with
  | zero => exact ⟨.refl l, fun _ _ => rfl, by simp [Engine.allocatePackages]⟩
  | succ count ih =>
    have hone := Moved.issue l (.package c archive index)
    obtain ⟨hrest, hold, hnew⟩ := ih hone.ledger (index + 1)
    have hissued : (g.engine.allocate (.package c archive index)).2.Issued
        (Handle.issuedAfter g.engine.issued) := ⟨g.engine.issued, Nat.lt_succ_self _, rfl⟩
    refine ⟨(hone.trans hrest).perm List.perm_middle, fun h hi => ?_, fun h hh => ?_⟩
    · have hne : h ≠ Handle.issuedAfter g.engine.issued := fun he =>
        g.engine.not_issued_next (he ▸ hi)
      refine (hold h (hi.mono (Nat.le_succ _))).trans ?_
      simp [Engine.allocate, Std.ExtTreeMap.getElem?_insert, Ne.symm hne]
    · rcases List.mem_cons.mp hh with rfl | hh
      · refine ⟨index, (hold _ hissued).trans ?_⟩
        simp [Engine.allocate]
      · exact hnew h hh

/-- The packages of a container that is in hand. -/
theorem Gateway.packages_moved {c : Handle} (l : Ledger g.engine held loose)
    (hc : OwnedHandle.take c .container ∈ loose) :
    Moved held ((packages c g).1.map (OwnedHandle.take · .package) ++ loose) g (packages c g).2
      ∧ ∀ h ∈ (packages c g).1, ∃ a i, (packages c g).2.engine.live[h]?
        = some (.package c a i) := by
  obtain ⟨o, ho, hk⟩ := l.object (.inr hc) rfl
  cases o with
  | package x a i => simp [LiveObject.kind, OwnedHandle.take] at hk
  | stream cur => simp [LiveObject.kind, OwnedHandle.take] at hk
  | container a =>
    have hlive : g.engine.live[c]? = some (.container a) := ho
    have hrec : Moved held loose g { g with engine := g.engine.record (.packages c) } := by
      refine .of_uses l ⟨g.engine.uses_record (.packages c) rfl, id⟩ (fun h hh => ?_)
        fun i x hx hh => ?_
      · cases hh
        rw [hlive]
        rfl
      · exact absurd (Option.some.inj hh).symm (l.looseApart i x _ hx hc)
    obtain ⟨count, hcount⟩ : ∃ count, packages c g
        = (((g.engine.record (.packages c)).allocatePackages c a 0 count).1,
          { g with
            engine := ((g.engine.record (.packages c)).allocatePackages c a 0 count).2 }) := by
      refine ⟨((g.engine.archives[a]?).map fun x => x.packages.length).getD 0, ?_⟩
      have heng : g.engine.packages c = (g.engine.record (.packages c)).allocatePackages c a 0
          (((g.engine.archives[a]?).map fun x => x.packages.length).getD 0) := by
        unfold Engine.packages Engine.onContainer
        rw [show (g.engine.record (.packages c)).live[c]? = some (.container a) from hlive]
        rfl
      show ((g.engine.packages c).1, { g with engine := (g.engine.packages c).2 }) = _
      rw [heng]
    rw [hcount]
    obtain ⟨hmoved, -, hnew⟩ := Moved.allocatePackages hrec.ledger c a 0 count
    exact ⟨hrec.trans hmoved, fun h hh => ⟨a, hnew h hh⟩⟩

/-- Packages in hand loaded, one after the other. -/
theorem loadAll_moved (config : Config) (l : Ledger g.engine held loose) (handles : List Handle)
    (hin : ∀ h ∈ handles, OwnedHandle.take h .package ∈ loose) :
    Moved held loose g (handles.mapM (Package.load · config) g).2
      ∧ (handles.mapM (Package.load · config) g).1.map Package.handle
          = handles.map (OwnedHandle.take · .package)
      ∧ (∀ p ∈ (handles.mapM (Package.load · config) g).1, p.link = none)
      ∧ ∀ (h : Handle) c a i, g.engine.live[h]? = some (.package c a i) →
          (handles.mapM (Package.load · config) g).2.engine.live[h]? = some (.package c a i) := by
  induction handles generalizing g with
  | nil => exact ⟨.refl l, rfl, by simp [pure_apply], fun _ _ _ _ h => h⟩
  | cons h handles ih =>
    have hmem := hin h (List.mem_cons_self ..)
    have honly := Package.load_only h config
    obtain ⟨hone, hhandle, hlink⟩ := Only.moved_loose (x := .take h .package) honly l hmem rfl
    have huses := (honly g (l.serves (.inr hmem) rfl)).1
    rw [mapM_cons_apply]
    generalize Package.load h config g = r at hone hhandle hlink huses ⊢
    obtain ⟨hrest, hhandles, hlinks, hkeep⟩ :=
      ih hone.ledger fun x hx => hin x (List.mem_cons_of_mem _ hx)
    refine ⟨hone.trans hrest, ?_, fun p hp => ?_, fun x c a i hx => ?_⟩
    · rw [List.map_cons, List.map_cons, hhandles, hhandle]
    · rcases List.mem_cons.mp hp with rfl | hp
      · exact hlink
      · exact hlinks p hp
    · exact hkeep x c a i (huses.engine.object hx (by simp [LiveObject.kind]))

end Opening

/-! ## §3. Containers put at their places. -/

namespace Host

variable {calm : Prop} {T : String → Prop} {w : Host} {hs : List OwnedHandle}
  {cs : List ContainerId} {ks : List PackageId}

/-- Loading packages one by one is loading them all, and then noting them all. -/
theorem loadPackages_eq (link : ContainerLink) (config : Config) (handles : List Handle)
    (w : Host) :
    loadPackages link config handles w
      = ((w.packages.addAll ((handles.mapM (Package.load · config) w.gateway).1.map
            fun p => { p with link := some link })).1,
          { w with
            gateway := (handles.mapM (Package.load · config) w.gateway).2
            packages := (w.packages.addAll ((handles.mapM (Package.load · config) w.gateway).1.map
              fun p => { p with link := some link })).2 }) := by
  induction handles generalizing w with
  | nil => rfl
  | cons h handles ih =>
    rw [mapM_cons_apply]
    unfold loadPackages
    simp only [bind_apply, through_apply, get_apply, set_apply, pure_apply]
    generalize Package.load h config w.gateway = r
    rw [ih]
    rfl

/-- Packages in hand put at new places. -/
theorem addAll_ledger {e : Engine} {loose : List OwnedHandle} (ps : List Package)
    (hnext : ∀ j, w.packages.next ≤ j → w.packages.get? j = none)
    (l : Ledger e w.held (ps.map Package.handle ++ loose)) :
    Ledger e (held { w with packages := (w.packages.addAll ps).2 }) loose := by
  -- one package after the other goes from the hand to the next number
  induction ps generalizing w with
  | nil => exact l
  | cons p ps ih =>
    have hone : Ledger e (held { w with packages := (w.packages.add p).2 })
        (ps.map Package.handle ++ loose) := by
      refine Ledger.moveIn (i := .package w.packages.next) l ?_ ?_ fun pl hpl => ?_
      · show (w.packages.get? w.packages.next).map _ = none
        rw [hnext _ (Nat.le_refl _)]
        rfl
      · show ((w.packages.add p).2.get? w.packages.next).map _ = _
        rw [Pool.get?_add, if_pos rfl]
        rfl
      · cases pl with
        | container id => rfl
        | package k =>
          show ((w.packages.add p).2.get? k).map _ = _
          rw [Pool.get?_add, if_neg fun h => hpl (by rw [h])]
          rfl
        | slot m => rfl
    refine ih (w := { w with packages := (w.packages.add p).2 }) (fun j hj => ?_) hone
    have hlt : w.packages.next + 1 ≤ j := hj
    show (w.packages.add p).2.get? j = none
    rw [Pool.get?_add, if_neg (by omega), hnext j (by omega)]

/-- The host with a new container and its packages at their places. -/
def withArrivals (c : Container) (ps : List Package) (w : Host) : Host :=
  { w with containers := (w.containers.add c).2, packages := (w.packages.addAll ps).2 }

/-- A container and its packages that are ready for their places: they are
open, linked, and known to the engine as what they are. -/
structure Arrives (w : Host) (c : Container) (ps : List Package) : Prop where
  kind : c.handle.kind = .container
  isOpen : c.handle.released = false
  packages : ∀ p ∈ ps, p.handle.kind = .package ∧ p.link = some ⟨w.containers.next, c.path⟩
    ∧ ∃ a i, w.gateway.engine.live[p.handle.handle]? = some (.package c.handle.handle a i)
  list : c.packages = (w.packages.addAll ps).1

section Arrivals

variable {d : Debts} {c : Container} {ps : List Package} (hw : Sound calm w d)

include hw

theorem Sound.packages_free (k : PackageId) (h : w.packages.next ≤ k) :
    w.packages.get? k = none := by
  cases hp : w.packages.get? k with
  | none => rfl
  | some p => exact absurd (hw.packageIds k p hp) (Nat.not_lt.mpr h)

theorem Sound.containers_free : w.containers.get? w.containers.next = none := by
  cases hc : w.containers.get? w.containers.next with
  | none => rfl
  | some b => exact absurd (hw.containerIds _ b hc) (Nat.lt_irrefl _)

theorem Sound.get?_arrivals (k : Nat) : (withArrivals c ps w).packages.get? k
    = if k < w.packages.next then w.packages.get? k else ps[k - w.packages.next]? :=
  Pool.get?_addAll _ _ _ hw.packages_free

theorem Sound.package_stays {k : PackageId} {p : Package} (hp : w.packages.get? k = some p) :
    (withArrivals c ps w).packages.get? k = some p := by
  rw [hw.get?_arrivals, if_pos (hw.packageIds k p hp), hp]

theorem Sound.container_stays {id : ContainerId} {b : Container}
    (hb : w.containers.get? id = some b) :
    (withArrivals c ps w).containers.get? id = some b :=
  Pool.get?_add_eq_some.mpr (.inr ⟨Nat.ne_of_lt (hw.containerIds id b hb), hb⟩)

/-- A package was there before or is one of the new ones. -/
theorem Sound.package_arrivals (hlist : c.packages = (w.packages.addAll ps).1) {k : Nat}
    {p : Package} (hp : (withArrivals c ps w).packages.get? k = some p) :
    w.packages.get? k = some p
      ∨ p ∈ ps ∧ k ∈ c.packages ∧ k < (withArrivals c ps w).packages.next := by
  rw [hw.get?_arrivals] at hp
  split at hp
  · exact .inl hp
  · next hlt =>
    obtain ⟨hi, hget⟩ := List.getElem?_eq_some_iff.mp hp
    refine .inr ⟨hget ▸ List.getElem_mem hi, ?_, ?_⟩
    · rw [hlist, Pool.addAll_fst, List.mem_range'_1]
      exact ⟨Nat.le_of_not_lt hlt, by omega⟩
    · show k < (w.packages.addAll ps).2.next
      rw [Pool.next_addAll]
      omega

/-- The list of the new container is that of the new packages. -/
theorem Sound.listed_arrivals (h : Arrives w c ps) : c.packages.Nodup ∧ ∀ k ∈ c.packages,
    ∃ p, (withArrivals c ps w).packages.get? k = some p
      ∧ p.link = some ⟨w.containers.next, c.path⟩ := by
  rw [h.list, Pool.addAll_fst]
  refine ⟨List.nodup_range', fun k hk => ?_⟩
  obtain ⟨hle, hlt⟩ := List.mem_range'_1.mp hk
  have hi : k - w.packages.next < ps.length := Nat.sub_lt_left_of_lt_add hle hlt
  refine ⟨ps[k - w.packages.next], ?_, (h.packages _ (List.getElem_mem hi)).2.1⟩
  rw [hw.get?_arrivals, if_neg (Nat.not_lt.mpr hle), List.getElem?_eq_getElem hi]

theorem Arrives.kinds (h : Arrives w c ps) :
    ∀ pl x, (withArrivals c ps w).held pl = some x → x.kind = pl.kind := by
  intro pl x hx
  cases pl with
  | container id =>
    obtain ⟨b, hb, rfl⟩ := Option.map_eq_some_iff.mp hx
    rcases Pool.get?_add_eq_some.mp hb with ⟨-, rfl⟩ | ⟨-, hb⟩
    · exact h.kind
    · exact hw.kinds _ _ (held_container hb)
  | package k =>
    obtain ⟨p, hp, rfl⟩ := Option.map_eq_some_iff.mp hx
    rcases hw.package_arrivals h.list hp with hp | ⟨hp, -⟩
    · exact hw.kinds _ _ (held_package hp)
    · exact (h.packages p hp).1
  | slot m => exact hw.kinds (.slot m) x hx

/-- The containers that stand notice nothing. -/
theorem Sound.arrivals_evolve : Evolves T 0 w (withArrivals c ps w) [] := by
  refine ⟨by simp [log, withArrivals], fun id b hst => .inl ?_, fun id b hst => ?_, Nat.le_succ _,
    fun _ _ => rfl, fun _ _ _ _ => rfl, rfl⟩
  · obtain ⟨hb, hr⟩ := standing?_eq_some.mp hst
    refine ⟨standing?_eq_some.mpr ⟨hw.container_stays hb, hr⟩, rfl, fun k hk => ?_⟩
    obtain ⟨p, hp, -⟩ := (hw.members id b hb).2 k hk
    have hsame : (withArrivals c ps w).packageHandle? k = w.packageHandle? k := by
      unfold packageHandle?
      rw [hw.package_stays hp, hp]
    rw [hsame]
    exact packageHandle?_spared fun _ _ => rfl
  · obtain ⟨hb, hr⟩ := standing?_eq_some.mp hst
    rcases Pool.get?_add_eq_some.mp hb with ⟨rfl, -⟩ | ⟨-, hb⟩
    · exact .inl (Nat.le_refl _)
    · exact .inr (standing?_eq_some.mpr ⟨hb, hr⟩)

end Arrivals

theorem Arrives.ledger {c : Container} {ps : List Package}
    (hw : Sound calm w ⟨ps.map Package.handle ++ (c.handle :: hs), cs, ks, []⟩) :
    Ledger w.gateway.engine (withArrivals c ps w).held hs := by
  have hself : (withArrivals c ps w).containers.get? w.containers.next = some c :=
    Pool.get?_add_eq_some.mpr (.inl ⟨rfl, rfl⟩)
  refine (addAll_ledger ps hw.packages_free hw.ledger).moveIn (i := .container w.containers.next) ?_
    (held_container hself) fun pl hpl => ?_
  · show (w.containers.get? _).map _ = none
    rw [hw.containers_free]
    rfl
  · refine held_congr (fun id hid => ?_) (fun _ _ => rfl) fun _ _ => rfl
    show (w.containers.add c).2.get? id = _
    rw [Pool.get?_add, if_neg fun h => hpl (by rw [hid, h])]

/-- A container in hand put at a new place, together with its packages. -/
theorem Reaches.addContainer {c : Container} {ps : List Package}
    (hw : Sound calm w ⟨ps.map Package.handle ++ (c.handle :: hs), cs, ks, []⟩)
    (h : Arrives w c ps) :
    Reaches calm T 0 w (withArrivals c ps w) ⟨hs, w.containers.next :: cs, ks, []⟩ := by
  have hself : (withArrivals c ps w).containers.get? w.containers.next = some c :=
    Pool.get?_add_eq_some.mpr (.inl ⟨rfl, rfl⟩)
  have hledger := Arrives.ledger hw
  refine ⟨⟨hledger, h.kinds hw, hw.slots, ?_, ?_, ?_, ?_, ?_, ?_, hw.fetches, hw.calm⟩, [],
    hw.arrivals_evolve⟩
  · intro id b hb
    show id < w.containers.next + 1
    rcases Pool.get?_add_eq_some.mp hb with ⟨rfl, -⟩ | ⟨-, hb⟩
    · exact Nat.lt_succ_self _
    · exact Nat.lt_succ_of_lt (hw.containerIds id b hb)
  · intro k p hp
    rcases hw.package_arrivals h.list hp with hp | ⟨-, -, hlt⟩
    · show k < (w.packages.addAll ps).2.next
      rw [Pool.next_addAll]
      exact Nat.lt_of_lt_of_le (hw.packageIds k p hp) (Nat.le_add_right _ _)
    · exact hlt
  · intro id b hb
    rcases Pool.get?_add_eq_some.mp hb with ⟨rfl, rfl⟩ | ⟨-, hb⟩
    · exact hw.listed_arrivals h
    · obtain ⟨hnodup, hlisted⟩ := hw.members id b hb
      refine ⟨hnodup, fun k hk => ?_⟩
      obtain ⟨p, hp, hlink⟩ := hlisted k hk
      exact ⟨p, hw.package_stays hp, hlink⟩
  · intro k p hp
    rcases hw.package_arrivals h.list hp with hp | ⟨hmem, hk, -⟩
    · obtain ⟨hlink, hstand⟩ := hw.linked k p hp
      refine ⟨hlink, fun hr => ?_⟩
      obtain ⟨id, b, hb, hrest⟩ := hstand hr
      exact ⟨id, b, hw.container_stays hb, hrest⟩
    · obtain ⟨-, hlink, hlive⟩ := h.packages p hmem
      refine ⟨⟨_, hlink⟩, fun _ => ⟨_, c, hself, hk, hlive, fun hr => ?_⟩⟩
      rw [h.isOpen] at hr
      exact absurd hr (by simp)
  · intro id b hb
    rcases Pool.get?_add_eq_some.mp hb with ⟨rfl, -⟩ | ⟨-, hb⟩
    · exact .inr (List.mem_cons_self ..)
    · exact (hw.containersOwned id b hb).imp_right (List.mem_cons_of_mem _)
  · intro k p hp
    rcases hw.package_arrivals h.list hp with hp | ⟨-, hk, -⟩
    -- old packages keep their owners; the new container owns the new ones
    · rcases hw.packagesOwned k p hp with hown | hdebt
      · exact .inl (packageOwned_mono (w := w) (fun _ _ h => h)
          (fun _ b hb hmem => ⟨b, hw.container_stays hb, hmem⟩) hown)
      · exact .inr hdebt
    · exact .inl ((packageOwned_iff _ k).mpr (.inr ⟨_, c, hself, hk⟩))

/-- **A container opened**, with all its packages, or nothing. -/
theorem openContainer_reaches (path : String) (config : Config)
    (hw : Sound calm w ⟨hs, cs, ks, []⟩) :
    ((∃ e, (openContainer path config w).1 = .error e)
        ∧ Reaches calm T 0 w (openContainer path config w).2 ⟨hs, cs, ks, []⟩)
      ∨ ∃ id, (openContainer path config w).1 = .ok id
        ∧ Reaches calm T 0 w (openContainer path config w).2 ⟨hs, id :: cs, ks, []⟩ := by
  have hopen := Gateway.openArchive_moved hw.ledger path
  unfold openContainer
  simp only [bind_apply, through_apply]
  cases hfound : (Gateway.openArchive path w.gateway).1 with
  | none =>
    rw [hfound] at hopen
    exact .inl ⟨⟨_, rfl⟩, .gateway hw hopen⟩
  | some h =>
    rw [hfound] at hopen
    generalize (Gateway.openArchive path w.gateway).2 = g1 at hopen ⊢
    have hself : OwnedHandle.take h .container ∈ OwnedHandle.take h .container :: hs :=
      List.mem_cons_self ..
    simp only [bind_apply, through_apply, get_apply, set_apply, pure_apply]
    have hversion : Gateway.Moved w.held (.take h .container :: hs) g1
        (Gateway.containerVersion h g1).2 :=
      (Gateway.Only.moved_loose (x := .take h .container) Gateway.containerVersion_only
        hopen.ledger hself rfl).1
    generalize Gateway.containerVersion h g1 = r2 at hversion ⊢
    obtain ⟨hpackages, hnew⟩ := Gateway.packages_moved hversion.ledger hself
    generalize Gateway.packages h r2.2 = r3 at hpackages hnew ⊢
    obtain ⟨hload, hhandles, hlinks, hkeep⟩ := loadAll_moved config hpackages.ledger r3.1
      fun x hx => List.mem_append_left _ (List.mem_map_of_mem hx)
    rw [loadPackages_eq]
    simp only
    generalize r3.1.mapM (Package.load · config) r3.2 = r4 at hload hhandles hlinks hkeep ⊢
    let link : ContainerLink := { container := w.containers.next, path }
    let ps : List Package := r4.1.map fun p => { p with link := some link }
    have hps : ps.map Package.handle = r3.1.map (OwnedHandle.take · .package) := by
      rw [← hhandles, List.map_map]
      rfl
    -- the loaded packages are over the handles that the engine gave
    have hall : Gateway.Moved w.held (ps.map Package.handle ++ (.take h .container :: hs))
        w.gateway r4.2 := by
      rw [hps]
      exact ((hopen.trans hversion).trans hpackages).trans hload
    have hgate := Reaches.gateway (T := T) hw hall
    let c : Container :=
      { handle := .take h .container, path, version := r2.1,
        packages := (w.packages.addAll ps).1, config }
    have harrives : Arrives { w with gateway := r4.2 } c ps := by
      refine ⟨rfl, rfl, fun p hp => ?_, rfl⟩
      obtain ⟨q, hq, rfl⟩ := List.mem_map.mp hp
      have hmem : q.handle ∈ r3.1.map (OwnedHandle.take · .package) := by
        rw [← hhandles]
        exact List.mem_map_of_mem hq
      obtain ⟨x, hx, hxq⟩ := List.mem_map.mp hmem
      obtain ⟨a, i, hl⟩ := hnew x hx
      refine ⟨by rw [← hxq]; rfl, rfl, a, i, ?_⟩
      rw [← hxq]
      exact hkeep x h a i hl
    have hadd := Reaches.addContainer (T := T) hgate.sound harrives
    exact .inr ⟨_, rfl, (hgate.trans hadd).trans (.same hadd.sound rfl rfl rfl rfl rfl)⟩

end Host

end EpubAccess
