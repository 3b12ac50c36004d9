/-
  EpubAccess.Proofs.Packages.Unasked
  ────────────────────────────────
  Work that asks for no navigation table.

  The engine records every request once (`Engine.log_perform`), so the record
  tells how often a table was asked for (`Host.fetches`).  `Unasked w w'` says
  that `w'` came out of `w` without such a request: the open packages of `w'`
  are those of `w` with the tables they had, or new ones that have none.  It is
  a preorder that allows most of what a host does (`unasked_outward`), and
  `AsksNone m` says it of the work `m` wherever it starts.

  Of all the commands that go through the library only
  `.package slot (.navigation kind)` asks (`run_asksNone`).
-/
import EpubAccess.Proofs.Ownership.Runs
import EpubAccess.Proofs.Walks

namespace EpubAccess

open Stateful

/-! ## §1. The record of the engine. -/

namespace Engine

variable (e : Engine)

/-- **Every request leaves its record**, whatever the answer is. -/
theorem log_perform (r : Request) : (e.perform r).2.log = e.log ++ [r.call] := by
  rw [← e.log_record r.call]
  exact congrArg Array.toList (e.perform_proceeds r).calls

/-- How often a navigation table was asked for. -/
def fetches (x : Handle) (kind : NavKind) : Nat := e.log.count (.navigation x kind)

variable {e}

theorem fetches_perform {r : Request} (hr : r.isNavigation = false) (x : Handle) (kind : NavKind) :
    (e.perform r).2.fetches x kind = e.fetches x kind := by
  have hne : r.call ≠ .navigation x kind := by
    cases r <;> simp_all [Request.call, Request.isNavigation]
  unfold fetches
  rw [log_perform, List.count_append, List.count_singleton, if_neg (by simpa using hne)]
  rfl

theorem fetches_navigation (h : Handle) (k : NavKind) (x : Handle) (kind : NavKind) :
    (e.navigation h k).2.fetches x kind
      = e.fetches x kind + if h = x ∧ k = kind then 1 else 0 := by
  have hlog : (e.navigation h k).2.log = e.log ++ [.navigation h k] :=
    e.log_perform (.navigation h k)
  unfold fetches
  rw [hlog, List.count_append, List.count_singleton]
  simp

theorem Served.fetches {e' : Engine} (h : Served e e') (x : Handle) (kind : NavKind) :
    e'.fetches x kind = e.fetches x kind := by
  obtain ⟨rs, hrs, rfl⟩ := h
  induction rs generalizing e with
  | nil => rfl
  | cons r rs ih =>
    rw [List.foldl_cons, ih fun s hs => hrs s (List.mem_cons_of_mem _ hs),
      fetches_perform (hrs r (List.mem_cons_self ..))]

/-- The packages of a container get handles that nobody had before. -/
theorem not_issued_of_mem_allocatePackages {h x : Handle} {archive : String} {index count : Nat}
    (hx : x ∈ (e.allocatePackages h archive index count).1) : ¬ e.Issued x := by
  induction count generalizing e index with
  | zero => exact absurd hx List.not_mem_nil
  | succ count ih =>
    have hx' : x ∈ Handle.issuedAfter e.issued
        :: ((e.allocate _).2.allocatePackages h archive (index + 1) count).1 := hx
    rcases List.mem_cons.mp hx' with rfl | hx'
    · exact e.not_issued_next
    · exact fun hi => ih hx' (hi.mono (Nat.le_succ _))

theorem not_issued_of_mem_packages {h x : Handle} (hx : x ∈ (e.packages h).1) : ¬ e.Issued x := by
  unfold packages onContainer at hx
  split at hx
  · exact not_issued_of_mem_allocatePackages (e := e.record _) hx
  · exact absurd hx List.not_mem_nil

end Engine

namespace Host

variable {w w' w'' : Host}

/-! ## §2. The relation. -/

/-- How often the engine was asked for a navigation table of a package. -/
def fetches (w : Host) (x : Handle) (kind : NavKind) : Nat := w.gateway.engine.fetches x kind

/-- The host `w'` came out of `w`, and no navigation table was asked for. -/
structure Unasked (w w' : Host) : Prop where
  issued : w.gateway.engine.issued ≤ w'.gateway.engine.issued
  fetches : ∀ x kind, w'.fetches x kind = w.fetches x kind
  /-- A package that is open was so before, with the same tables, or it is new
  and has none. -/
  packages : ∀ k p', w'.packages.get? k = some p' → p'.isClosed = false →
    (∃ p, w.packages.get? k = some p ∧ p.isClosed = false
        ∧ p'.handle.handle = p.handle.handle ∧ p'.navigationCache = p.navigationCache)
      ∨ (¬ w.gateway.engine.Issued p'.handle.handle ∧ p'.navigationCache = fun _ => none)

namespace Unasked

/-- Packages that stayed, as open as before and with the same tables, or were
closed, after requests for no table. -/
theorem of_served (hs : w.gateway.engine.Served w'.gateway.engine)
    (hp : ∀ k p', w'.packages.get? k = some p' → p'.isClosed = false →
      ∃ p, w.packages.get? k = some p ∧ p.isClosed = false
        ∧ p'.handle.handle = p.handle.handle ∧ p'.navigationCache = p.navigationCache) :
    Unasked w w' :=
  ⟨hs.issued_le, hs.fetches, fun k p' hp' hr => .inl (hp k p' hp' hr)⟩

/-- The packages were not touched. -/
theorem same (hs : w.gateway.engine.Served w'.gateway.engine) (hp : w'.packages = w.packages) :
    Unasked w w' :=
  .of_served hs fun _ p' hp' hr => ⟨p', hp ▸ hp', hr, rfl, rfl⟩

theorem refl (w : Host) : Unasked w w := same (.refl _) rfl

theorem trans (h : Unasked w w') (h' : Unasked w' w'') : Unasked w w'' := by
  refine ⟨Nat.le_trans h.issued h'.issued,
    fun x kind => (h'.fetches x kind).trans (h.fetches x kind), fun k p'' hp'' hr'' => ?_⟩
  rcases h'.packages k p'' hp'' hr'' with ⟨p', hp', hr', hhandle', hcache'⟩ | ⟨hnew, hcache'⟩
  · rw [hhandle', hcache']
    exact h.packages k p' hp' hr'
  · exact .inr ⟨fun hi => hnew (hi.mono h.issued), hcache'⟩

/-- A package noted anew, with the same tables. -/
theorem setPackage {k : PackageId} {p p' : Package} (hp : w.packages.get? k = some p)
    (hhandle : p'.handle = p.handle) (hcache : p'.navigationCache = p.navigationCache) :
    Unasked w { w with packages := w.packages.set k p' } := by
  refine .of_served (.refl _) fun j q hq hr => ?_
  rcases Pool.get?_set_eq_some.mp hq with ⟨rfl, rfl⟩ | ⟨-, hq⟩
  · have hr' : p.handle.released = false := hhandle ▸ hr
    exact ⟨p, hp, hr', congrArg OwnedHandle.handle hhandle, hcache⟩
  · exact ⟨q, hq, hr, rfl, rfl⟩

/-- A package without tables added over a handle that is new. -/
theorem addPackage {v : Host} {p : Package} (h : Unasked v w)
    (hnew : ¬ v.gateway.engine.Issued p.handle.handle)
    (hcache : p.navigationCache = fun _ => none) :
    Unasked v { w with packages := (w.packages.add p).2 } := by
  refine ⟨h.issued, h.fetches, fun k q hq hr => ?_⟩
  rcases Pool.get?_add_eq_some.mp hq with ⟨-, rfl⟩ | ⟨-, hq⟩
  · exact .inr ⟨hnew, hcache⟩
  · exact h.packages k q hq hr

end Unasked

instance : IsPreorder Host Unasked where
  refl := Unasked.refl
  trans _ _ _ := Unasked.trans

/-- Work that asks for no navigation table. -/
abbrev AsksNone {α : Type} (m : StateM Host α) : Prop := Along Unasked m

/-! ## §3. What goes on inside. -/

theorem through_asksNone {α : Type} {post : α → Prop} {m : StateM Gateway α}
    (hm : Gateway.Forward post m) : AsksNone (through m) :=
  fun w => .same (hm w.gateway).1.served rfl

theorem update_asksNone (slot : String) (o : Holding) : AsksNone (update slot o) :=
  fun _ => .same (.refl _) rfl

theorem closePackage_asksNone (k : PackageId) : AsksNone (closePackage k) := by
  refine .get_bind fun w => ?_
  cases hp : w.packages.get? k with
  | none => exact .refl w
  | some p =>
    obtain ⟨hgoes, -, hclosed⟩ := p.close_forward w.gateway
    -- the package is closed afterwards, so its tables do not count any more
    refine .of_served hgoes.served fun j q hq hr => ?_
    rcases Pool.get?_set_eq_some.mp hq with ⟨rfl, rfl⟩ | ⟨-, hq⟩
    · exact absurd (hclosed.symm.trans hr) (by simp)
    · exact ⟨q, hq, hr, rfl, rfl⟩

/-- **What goes on inside a host asks for no table**, and neither does most of
what it is asked for. -/
theorem unasked_outward : Outward Unasked where
  through := through_asksNone
  closePackage := closePackage_asksNone
  removePackage w k := .of_served (.refl _) fun _ q hq hr =>
    ⟨q, (Pool.get?_remove_eq_some.mp hq).2, hr, rfl, rfl⟩
  put slot o _ := update_asksNone slot o
  erase _ _ := .same (.refl _) rfl
  rest w w' hg hp _ _ := .same (by rw [hg]; exact .refl _) hp

theorem store_asksNone (slot : String) (o : Holding) : AsksNone (store slot o) :=
  unasked_outward.store (update_asksNone slot o)

/-! ## §4. Objects that are opened. -/

/-- Packages loaded over new handles. -/
theorem loadPackages_unasked (link : ContainerLink) (config : Config) {hs : List Handle}
    (h : Unasked w w') (hnew : ∀ x ∈ hs, ¬ w.gateway.engine.Issued x) :
    Unasked w (loadPackages link config hs w').2 := by
  induction hs generalizing w' with
  | nil => exact h
  | cons x hs ih =>
    have hload := Package.load_forward x config w'.gateway
    unfold loadPackages
    simp only [bind_apply, through_apply, get_apply, set_apply, pure_apply]
    generalize Package.load x config w'.gateway = r at hload ⊢
    obtain ⟨p, g⟩ := r
    obtain ⟨hgoes, hhandle, -, hcache⟩ := hload
    have hgate : Unasked w { w' with gateway := g } := h.trans (.same hgoes.served rfl)
    refine ih ?_ fun y hy => hnew y (List.mem_cons_of_mem _ hy)
    refine hgate.addPackage (p := { p with link := some link }) ?_ hcache
    show ¬ w.gateway.engine.Issued p.handle.handle
    rw [hhandle]
    exact hnew x (List.mem_cons_self ..)

theorem openContainer_asksNone (path : String) (config : Config) :
    AsksNone (openContainer path config) := by
  refine .bind (through_asksNone (Gateway.openArchive_onward path)) fun r => ?_
  cases r with
  | none => exact .pure _
  | some h =>
    refine .bind (through_asksNone (Gateway.containerVersion_onward h)) fun version w => ?_
    have hpackages : Unasked w (through (Gateway.packages h) w).2 :=
      through_asksNone (Gateway.packages_onward h) w
    have hnew : ∀ x ∈ (through (Gateway.packages h) w).1, ¬ w.gateway.engine.Issued x :=
      fun x hx => Engine.not_issued_of_mem_packages hx
    simp only [bind_apply, get_apply, set_apply, pure_apply]
    generalize through (Gateway.packages h) w = r at hpackages hnew ⊢
    have hload :=
      loadPackages_unasked { container := r.2.containers.next, path } config hpackages hnew
    exact hload.trans (.same (.refl _) rfl)

theorem addPackage_asksNone (id : ContainerId) (k : PackageId) : AsksNone (addPackage id k) := by
  refine .get_bind fun w => ?_
  cases hc : w.containers.get? id with
  | none => exact .refl w
  | some c =>
    cases hp : w.packages.get? k with
    | none => exact .refl w
    | some p =>
      dsimp only
      unfold Package.attach?
      cases p.link with
      | some link => exact through_asksNone (.emit _) w
      | none =>
        have hset : Unasked w { w with
            packages := w.packages.set k { p with link := some ⟨id, c.path⟩ } } :=
          .setPackage hp rfl rfl
        exact hset.trans (.same (.refl _) rfl)

/-! ## §5. Commands. -/

variable {slot dest : String}

theorem storeStream_asksNone (s : Option ContentStream) : AsksNone (storeStream dest s) := by
  cases s with
  | none => exact .pure _
  | some s => exact store_asksNone dest _

/-- Of the operations of a package only one asks. -/
theorem runPackage_asksNone (op : PackageOp) (hop : ∀ kind, op ≠ .navigation kind) :
    AsksNone (runPackage slot op) := by
  cases op with
  | setRootUrls urls =>
    exact fun w => withPackage_keeps (.refl w) fun k p _ hp => .setPackage hp rfl rfl
  | _ => exact unasked_outward.runPackage _ hop (by simp)

theorem packageStream_asksNone (path : String) (mode : StreamMode) :
    AsksNone (run (.packageStream slot path mode dest)) := by
  intro w
  refine withPackage_keeps (.refl w) fun _ p _ _ => ?_
  have hopened : ∀ {post : Option ContentStream → Prop} {m : StateM Gateway (Option ContentStream)},
      Gateway.Forward post m → AsksNone (do
        let s ← through m
        storeStream dest s
        pure (.stream s) : StateM Host Answer) := fun hm =>
    .bind (through_asksNone hm) fun s => .bind (storeStream_asksNone s) fun _ => .pure _
  cases mode with
  | filtered ranged => exact hopened (p.openStream_onward (w.isAttached p) path ranged) w
  | raw => exact hopened (p.openRawStream_onward (w.isAttached p) path) w

theorem rawStream_asksNone (path : String) : AsksNone (run (.rawStream slot path dest)) := by
  intro w
  refine withContainer_keeps (.refl w) fun _ c _ _ => ?_
  have hopened : AsksNone (do
      let s ← through (c.rawStream path)
      storeStream dest s
      pure (.stream s) : StateM Host Answer) :=
    .bind (through_asksNone (c.rawStream_onward path)) fun s => .bind (storeStream_asksNone s)
      fun _ => .pure _
  exact hopened w

theorem runFetch_asksNone (op : FetchOp) : AsksNone (runFetch slot op) := by
  intro w
  refine withFetch_keeps (.refl w) fun f p _ _ => ?_
  have hrun := through_asksNone (f.run_forward p (w.isAttached p) op) w
  exact hrun.trans (update_asksNone slot _ _)

theorem runHandOver_asksNone (ranged : Bool) : AsksNone (runHandOver slot ranged dest) := by
  intro w
  refine withFetch_keeps (.refl w) fun f p _ _ => ?_
  have hrun := through_asksNone (f.handOver_forward p (w.isAttached p) ranged) w
  exact (hrun.trans (update_asksNone slot _ _)).trans (storeStream_asksNone _ _)

theorem runStream_asksNone (op : StreamOp) : AsksNone (runStream slot op) := by
  intro w
  refine withStream_keeps (.refl w) fun s _ => ?_
  have hrun := through_asksNone (StreamOp.run_onward s op) w
  exact hrun.trans (update_asksNone slot _ _)

/-- **Only one command asks** among those that go through the library. -/
theorem run_asksNone (c : Command) (hc : c.isDirect = false)
    (hn : ∀ slot kind, c ≠ .package slot (.navigation kind)) : AsksNone (run c) := by
  -- the direct ones are excluded, and quiet ones are no work of packages
  cases c with
  | engine | own | loadPackage => exact absurd hc (by simp [Command.isDirect])
  | register path archive =>
    exact .bind (fun w => ⟨Nat.le_refl _, fun _ _ => rfl,
      fun _ p hp hr => .inl ⟨p, hp, hr, rfl, rfl⟩⟩) fun _ => .pure _
  | inject fault => exact fun _ => .same (.refl _) rfl
  | openContainer path config dest =>
    exact unasked_outward.runOpen (openContainer_asksNone path config)
  | rawStream slot path dest => exact rawStream_asksNone path
  | addPackage container package =>
    exact Outward.runAddPackage addPackage_asksNone container package
  | package slot op => exact runPackage_asksNone op fun kind h => hn slot kind (h ▸ rfl)
  | packageStream slot path mode dest => exact packageStream_asksNone path mode
  | fetch slot op => exact runFetch_asksNone op
  | handOver slot ranged dest => exact runHandOver_asksNone ranged
  | stream slot op => exact runStream_asksNone op
  | _ => exact unasked_outward.run _ rfl

end Host

end EpubAccess
