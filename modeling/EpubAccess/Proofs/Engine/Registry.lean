/-
  EpubAccess.Proofs.Engine.Registry
  ────────────────────────────────
  The books that the engine keeps about any use of it.

  A client may register archives and make calls in any order, with any
  handles: live ones, released ones, ones of another kind and ones that were
  never issued.  `Request.misuse?` says, from the state before the call,
  which misuse a call is.

  Main results:

    • `Engine.perform_outcome`: all that a call can do to the engine, as one
      of six outcomes, each with what it is counted as,
    • `Engine.InOrder`: every issued handle is live or released, not both,
      which each outcome keeps,
    • `Engine.books_balance`: after any uses of a fresh engine the handles
      handed out are the first ones in order, the counters are the numbers
      of misuses made, and the log has each call once.
-/
import Mathlib.Algebra.Group.Nat.Defs
import EpubAccess.Engine.Request
import EpubAccess.Proofs.Ownership.Ledger

namespace EpubAccess

/-! ## §1. Uses and misuses. -/

/-- What the engine counts against its caller. -/
inductive Misuse where
  /-- A handle given back that is not live. -/
  | doubleRelease
  /-- A call about a handle that is not live, or is of another kind. -/
  | danglingUse
  /-- A package given back while its container is live. -/
  | earlyRelease
  deriving DecidableEq

/-- The kind of live object that the handle of a request has to name.
Opening an archive is about none, and a handle of any kind may be given
back. -/
def Request.needs : Request → Option HandleKind
  | .openArchive _ | .openPlain _ | .releaseHandle _ | .closeStream _ => none
  | .containerVersion _ | .packages _ | .rawContainerStream _ _ => some .container
  | .metadata _ _ | .authorList _ | .subjects _ | .spineItems _ | .manifestItems _
  | .mediaOverlay _ | .property _ _ _ | .hasProperty _ _ _ | .navigation _ _
  | .openStream _ _ _ | .openRawStream _ _ | .probeSize _ _ => some .package
  | .readBytes _ _ | .readAll _ _ | .readRange _ _ _ | .skip _ _ | .mark _ | .reset _ _
  | .available _ => some .stream

/-- The misuse that a request is, on the engine as it stands. -/
def Request.misuse? (r : Request) (e : Engine) : Option Misuse :=
  match r.call.handle?, r.needs with
  | none, _ => none
  | some h, some kind =>
    if (e.live[h]?).map LiveObject.kind = some kind then none else some .danglingUse
  | some h, none =>
    match e.live[h]? with
    | none => some .doubleRelease
    | some (.package container _ _) => if container ∈ e.live then some .earlyRelease else none
    | some _ => none

/-- The handles that a reply hands out. -/
def Reply.handed : Reply → List Handle
  | .handle h => h.toList
  | .handles hs => hs
  | _ => []

/-- What a client does with the engine. -/
inductive EngineUse where
  | register (path : String) (archive : Archive)
  | ask (r : Request)

/-- The record that a use leaves; registering an archive leaves none. -/
def EngineUse.call? : EngineUse → Option Call
  | .register _ _ => none
  | .ask r => some r.call

/-- The misuse that a use is. -/
def EngineUse.misuse? (e : Engine) : EngineUse → Option Misuse
  | .register _ _ => none
  | .ask r => r.misuse? e

namespace Engine

/-- The engine after a use. -/
def use (e : Engine) : EngineUse → Engine
  | .register path a => e.register path a
  | .ask r => (e.perform r).2

/-- The handles that a use is given. -/
def given (e : Engine) : EngineUse → List Handle
  | .register _ _ => []
  | .ask r => (e.perform r).1.handed

/-- The engine after some uses. -/
def afterUses (e : Engine) (us : List EngineUse) : Engine := us.foldl use e

/-- All handles that some uses are given, in order. -/
def handedOut (e : Engine) : List EngineUse → List Handle
  | [] => []
  | u :: us => e.given u ++ (e.use u).handedOut us

/-- How many of some uses are a misuse, each judged when it is made. -/
def tally (m : Misuse) (e : Engine) : List EngineUse → Nat
  | [] => 0
  | u :: us => (if u.misuse? e = some m then 1 else 0) + (e.use u).tally m us

/-- The counter that the engine keeps of a misuse. -/
def counter (e : Engine) : Misuse → Nat
  | .doubleRelease => e.doubleReleases
  | .danglingUse => e.danglingUses
  | .earlyRelease => e.registryWarnings

/-! ## §2. New objects. -/

/-- New objects, each under the next handle. -/
def issueAll (e : Engine) : List LiveObject → Engine
  | [] => e
  | o :: os => (e.allocate o).2.issueAll os

/-- New objects change the table of live ones and the number issued. -/
theorem issueAll_eq (os : List LiveObject) :
    ∀ e : Engine, ∃ live, e.issueAll os = { e with live, issued := e.issued + os.length } := by
  induction os with
  | nil =>
    intro e
    exact ⟨e.live, rfl⟩
  | cons o os ih =>
    intro e
    obtain ⟨live, hl⟩ := ih (e.allocate o).2
    refine ⟨live, ?_⟩
    rw [issueAll, hl]
    simp [allocate, Nat.add_assoc, Nat.add_comm 1]

/-- The packages of a container are objects issued one after the other. -/
theorem allocatePackages_eq (container : Handle) (archive : String) (count : Nat) :
    ∀ (e : Engine) (index : Nat),
      e.allocatePackages container archive index count
        = ((List.range' e.issued count).map Handle.issuedAfter,
          e.issueAll ((List.range' index count).map fun i => .package container archive i)) := by
  induction count with
  | zero =>
    intro e index
    rfl
  | succ n ih =>
    intro e index
    simp only [allocatePackages, ih, List.range'_succ, List.map_cons, issueAll]
    rfl

/-! ## §3. What a call can do. -/

/-- The ways in which a request can go on the engine as it stands: the reply,
and the engine after the call has been recorded. -/
inductive Outcome (r : Request) (e : Engine) (reply : Reply) : Engine → Prop where
  /-- An answer that moves nothing. -/
  | answered (gives : reply.handed = []) (fair : r.misuse? e = none) :
      Outcome r e reply (e.record r.call)
  /-- An answer from a live stream, which may move its cursor. -/
  | moved (h : Handle) (c c' : Cursor) (gives : reply.handed = [])
      (fair : r.misuse? e = none) (found : e.live[h]? = some (.stream c)) :
      Outcome r e reply { e.record r.call with live := e.live.insert h (.stream c') }
  /-- New objects, under the handles of the reply. -/
  | issued (os : List LiveObject) (fair : r.misuse? e = none)
      (gives : reply.handed = (List.range' e.issued os.length).map Handle.issuedAfter)
      (parents : ∀ o ∈ os, ∀ c a i, o = .package c a i → c ∈ e.live) :
      Outcome r e reply ((e.record r.call).issueAll os)
  /-- A live handle taken back. -/
  | returned (h : Handle) (o : LiveObject) (gives : reply.handed = [])
      (found : e.live[h]? = some o)
      (judged : r.misuse? e = none ∨ r.misuse? e = some .earlyRelease) :
      Outcome r e reply
        { e.record r.call with
          live := e.live.erase h
          released := e.released.push h
          registryWarnings :=
            e.registryWarnings + if r.misuse? e = some .earlyRelease then 1 else 0 }
  /-- A handle given back that is not live. -/
  | refused (gives : reply.handed = [])
      (judged : r.misuse? e = some .doubleRelease) :
      Outcome r e reply { e.record r.call with doubleReleases := e.doubleReleases + 1 }
  /-- A handle used that is not live, or of another kind. -/
  | dangled (gives : reply.handed = [])
      (judged : r.misuse? e = some .danglingUse) :
      Outcome r e reply (e.record r.call).dangling

/-- Every issued handle is live or was taken back, never both, and no handle
was taken back twice.  A package's container was issued before it. -/
structure InOrder (e : Engine) : Prop where
  known : ∀ h, e.Issued h ↔ h ∈ e.live ∨ h ∈ e.released
  apart : ∀ h, h ∈ e.live → h ∉ e.released
  once : e.released.toList.Nodup
  parents : ∀ (h c : Handle) a i, e.live[h]? = some (.package c a i) → c.number < h.number

theorem mem_live_insert {e : Engine} {h x : Handle} {o : LiveObject} :
    x ∈ e.live.insert h o ↔ x = h ∨ x ∈ e.live := by
  rw [Std.ExtTreeMap.mem_insert, Std.LawfulEqCmp.compare_eq_iff_eq, eq_comm]

theorem mem_live_erase {e : Engine} {h x : Handle} : x ∈ e.live.erase h ↔ x ≠ h ∧ x ∈ e.live := by
  rw [Std.ExtTreeMap.mem_erase, ne_eq, Std.LawfulEqCmp.compare_eq_iff_eq, eq_comm]

section Families

variable {α : Type} {r : Request} {e : Engine} {h : Handle}

/-- A question about a live container, whose answer changes nothing more. -/
theorem onContainer_outcome {absent : α} {f : String → Engine → α × Engine} {reply : α → Reply}
    (hp : e.perform r = ((e.record r.call).onContainer h absent f).map reply id)
    (hh : r.call.handle? = some h) (hn : r.needs = some .container)
    (ha : (reply absent).handed = [])
    (hf : ∀ archive, e.live[h]? = some (.container archive) → r.misuse? e = none →
      Outcome r e (reply (f archive (e.record r.call)).1) (f archive (e.record r.call)).2) :
    Outcome r e (e.perform r).1 (e.perform r).2 := by
  have hlive : (e.record r.call).live = e.live := rfl
  rw [hp]
  unfold onContainer
  rw [hlive]
  cases ho : e.live[h]? with
  | none => exact .dangled ha (by simp [Request.misuse?, hh, hn, ho])
  | some o =>
    cases o with
    | container archive =>
      exact hf archive ho (by simp [Request.misuse?, hh, hn, ho, LiveObject.kind])
    | package c a i =>
      exact .dangled ha (by simp [Request.misuse?, hh, hn, ho, LiveObject.kind])
    | stream c => exact .dangled ha (by simp [Request.misuse?, hh, hn, ho, LiveObject.kind])

/-- A question about a live package. -/
theorem onPackage_outcome {absent : α} {f : PackageDescription → α} {reply : α → Reply}
    (hp : e.perform r = ((e.record r.call).onPackage h absent f).map reply id)
    (hh : r.call.handle? = some h) (hn : r.needs = some .package)
    (hr : ∀ a, (reply a).handed = []) :
    Outcome r e (e.perform r).1 (e.perform r).2 := by
  have hlive : (e.record r.call).live = e.live := rfl
  rw [hp]
  unfold onPackage
  rw [hlive]
  cases ho : e.live[h]? with
  | none => exact .dangled (hr _) (by simp [Request.misuse?, hh, hn, ho])
  | some o =>
    cases o with
    | container a => exact .dangled (hr _) (by simp [Request.misuse?, hh, hn, ho, LiveObject.kind])
    | package c a i =>
      have fair : r.misuse? e = none := by simp [Request.misuse?, hh, hn, ho, LiveObject.kind]
      dsimp only
      split
      · exact .answered (hr _) fair
      · exact .answered (hr _) fair
    | stream c => exact .dangled (hr _) (by simp [Request.misuse?, hh, hn, ho, LiveObject.kind])

/-- A new stream over a resource of a live package. -/
theorem resourceStream_outcome {path : String} {raw ranged : Bool}
    (hp : e.perform r = ((e.record r.call).resourceStream h path raw ranged).map .handle id)
    (hh : r.call.handle? = some h) (hn : r.needs = some .package) :
    Outcome r e (e.perform r).1 (e.perform r).2 := by
  have hlive : (e.record r.call).live = e.live := rfl
  rw [hp]
  unfold resourceStream onPackage
  rw [hlive]
  cases ho : e.live[h]? with
  | none => exact .dangled rfl (by simp [Request.misuse?, hh, hn, ho])
  | some o =>
    cases o with
    | container a => exact .dangled rfl (by simp [Request.misuse?, hh, hn, ho, LiveObject.kind])
    | package c a i =>
      have fair : r.misuse? e = none := by simp [Request.misuse?, hh, hn, ho, LiveObject.kind]
      dsimp only
      cases (e.record r.call).description? a i with
      | none => exact .answered rfl fair
      | some d =>
        dsimp only
        cases d.resources[path]? with
        | none => exact .answered rfl fair
        | some res =>
          refine .issued [.stream (.start res.contents (raw || !res.filtered) ranged)] fair rfl ?_
          intro o ho c a i hp
          rw [List.mem_singleton] at ho
          exact absurd (ho.symm.trans hp) (by simp)
    | stream c => exact .dangled rfl (by simp [Request.misuse?, hh, hn, ho, LiveObject.kind])

/-- An operation on a live stream. -/
theorem onCursor_outcome {absent : α} {f : Cursor → α × Cursor} {reply : α → Reply}
    (hp : e.perform r = ((e.record r.call).onCursor h absent f).map reply id)
    (hh : r.call.handle? = some h) (hn : r.needs = some .stream)
    (hr : ∀ a, (reply a).handed = []) :
    Outcome r e (e.perform r).1 (e.perform r).2 := by
  have hlive : (e.record r.call).live = e.live := rfl
  rw [hp]
  unfold onCursor
  rw [hlive]
  cases ho : e.live[h]? with
  | none => exact .dangled (hr _) (by simp [Request.misuse?, hh, hn, ho])
  | some o =>
    cases o with
    | container a => exact .dangled (hr _) (by simp [Request.misuse?, hh, hn, ho, LiveObject.kind])
    | package c a i =>
      exact .dangled (hr _) (by simp [Request.misuse?, hh, hn, ho, LiveObject.kind])
    | stream c =>
      exact .moved h c (f c).2 (hr _) (by simp [Request.misuse?, hh, hn, ho, LiveObject.kind]) ho

/-- A handle given back.  The container of a live package is another handle,
so that taking the package off the table does not take the container off. -/
theorem takeBack_outcome (hp : e.perform r = ((e.record r.call).takeBack h).map .released id)
    (hh : r.call.handle? = some h) (hn : r.needs = none) (he : e.InOrder) :
    Outcome r e (e.perform r).1 (e.perform r).2 := by
  have hlive : (e.record r.call).live = e.live := rfl
  rw [hp]
  unfold takeBack
  rw [hlive]
  cases ho : e.live[h]? with
  | none => exact .refused rfl (by simp [Request.misuse?, hh, hn, ho])
  | some o =>
    cases o with
    | container a =>
      have fair : r.misuse? e = none := by simp [Request.misuse?, hh, hn, ho]
      have kept : Outcome r e (.released none) _ := .returned h (.container a) rfl ho (.inl fair)
      rwa [fair, if_neg (by simp), Nat.add_zero] at kept
    | stream c =>
      have fair : r.misuse? e = none := by simp [Request.misuse?, hh, hn, ho]
      have kept : Outcome r e (.released none) _ := .returned h (.stream c) rfl ho (.inl fair)
      rwa [fair, if_neg (by simp), Nat.add_zero] at kept
    | package c a i =>
      have hne : c ≠ h := by
        rintro rfl
        exact absurd (he.parents c c a i ho) (Nat.lt_irrefl _)
      have hmem : c ∈ e.live.erase h ↔ c ∈ e.live := by
        rw [mem_live_erase]
        exact and_iff_right hne
      by_cases hc : c ∈ e.live
      · have early : r.misuse? e = some .earlyRelease := by
          simp [Request.misuse?, hh, hn, ho, hc]
        have kept : Outcome r e (.released (some (.releasedBeforeContainer h c))) _ :=
          .returned h (.package c a i) rfl ho (.inr early)
        rw [early, if_pos rfl] at kept
        simp only [hmem, hc, if_true]
        exact kept
      · have fair : r.misuse? e = none := by simp [Request.misuse?, hh, hn, ho, hc]
        have kept : Outcome r e (.released none) _ :=
          .returned h (.package c a i) rfl ho (.inl fair)
        rw [fair, if_neg (by simp), Nat.add_zero] at kept
        simp only [hmem, hc, if_false]
        exact kept

end Families

/-- A container for an archive. -/
theorem openArchive_outcome {r : Request} {e : Engine} {path : String}
    (hp : e.perform r = (e.openArchive path).map .handle id) (hc : r.call = .open path) :
    Outcome r e (e.perform r).1 (e.perform r).2 := by
  rw [hp]
  have fair : r.misuse? e = none := by simp [Request.misuse?, hc, Call.handle?]
  unfold openArchive
  rw [← hc]
  dsimp only
  split
  · refine .issued [.container path] fair rfl ?_
    intro o ho c a i hp
    rw [List.mem_singleton] at ho
    exact absurd (ho.symm.trans hp) (by simp)
  · exact .answered rfl fair

/-- Every request goes in one of the six ways. -/
theorem perform_outcome {e : Engine} (he : e.InOrder) (r : Request) :
    Outcome r e (e.perform r).1 (e.perform r).2 := by
  cases r with
  | openArchive path => exact openArchive_outcome rfl rfl
  | openPlain path => exact openArchive_outcome rfl rfl
  | releaseHandle h => exact takeBack_outcome rfl rfl rfl he
  | closeStream h => exact takeBack_outcome rfl rfl rfl he
  | containerVersion h =>
    exact onContainer_outcome rfl rfl rfl rfl fun archive _ fair => .answered rfl fair
  | packages h =>
    have hp : e.perform (.packages h) = (e.packages h).map .handles id := rfl
    refine onContainer_outcome hp rfl rfl rfl fun archive found fair => ?_
    simp only [allocatePackages_eq]
    refine .issued _ fair (by simp [Reply.handed, record]) ?_
    intro o ho c a i hp
    obtain ⟨j, -, rfl⟩ := List.mem_map.mp ho
    cases hp
    exact Std.ExtTreeMap.mem_iff_isSome_getElem?.mpr (by simp [found])
  | rawContainerStream h path =>
    have hp : e.perform (.rawContainerStream h path)
        = (e.rawContainerStream h path).map .handle id :=
      rfl
    refine onContainer_outcome hp rfl rfl rfl fun archive found fair => ?_
    dsimp only
    split
    · refine .issued [.stream _] fair rfl ?_
      intro o ho c a i hp
      rw [List.mem_singleton] at ho
      exact absurd (ho.symm.trans hp) (by simp)
    · exact .answered rfl fair
  | openStream h path ranged => exact resourceStream_outcome rfl rfl rfl
  | openRawStream h path => exact resourceStream_outcome rfl rfl rfl
  | metadata h field => exact onPackage_outcome rfl rfl rfl fun _ => rfl
  | authorList h => exact onPackage_outcome rfl rfl rfl fun _ => rfl
  | subjects h => exact onPackage_outcome rfl rfl rfl fun _ => rfl
  | spineItems h => exact onPackage_outcome rfl rfl rfl fun _ => rfl
  | manifestItems h => exact onPackage_outcome rfl rfl rfl fun _ => rfl
  | mediaOverlay h => exact onPackage_outcome rfl rfl rfl fun _ => rfl
  | property h name vocabulary => exact onPackage_outcome rfl rfl rfl fun _ => rfl
  | hasProperty h name vocabulary => exact onPackage_outcome rfl rfl rfl fun _ => rfl
  | navigation h kind => exact onPackage_outcome rfl rfl rfl fun _ => rfl
  | probeSize h path => exact onPackage_outcome rfl rfl rfl fun _ => rfl
  | readBytes h length =>
    exact onCursor_outcome (f := fun c => c.take length.toNat) rfl rfl rfl fun _ => rfl
  | readAll h cap =>
    exact onCursor_outcome (f := fun c => c.take cap.toNat) rfl rfl rfl fun _ => rfl
  | readRange h offset length => exact onCursor_outcome rfl rfl rfl fun _ => rfl
  | skip h count => exact onCursor_outcome rfl rfl rfl fun _ => rfl
  | mark h => exact onCursor_outcome rfl rfl rfl fun _ => rfl
  | reset h toMark => exact onCursor_outcome rfl rfl rfl fun _ => rfl
  | available h =>
    exact onCursor_outcome (f := fun c => (UInt64.ofNat c.remaining, c)) rfl rfl rfl fun _ => rfl

/-! ## §4. The books stay in order. -/

theorem inOrder_empty : empty.InOrder := by
  refine ⟨?_, ?_, List.nodup_nil, ?_⟩
  · intro h
    constructor
    · rintro ⟨n, hn, -⟩
      exact absurd hn (Nat.not_lt_zero n)
    · rintro (hl | hr)
      · exact absurd hl (by simp [empty])
      · exact absurd hr (by simp [empty])
  · intro h hl
    exact absurd hl (by simp [empty])
  · intro h c a i ho
    simp [empty] at ho

variable {e e' : Engine} {r : Request} {reply : Reply}

/-- One more object, whose container (if it is a package) was issued before. -/
theorem InOrder.allocate (he : e.InOrder) {o : LiveObject}
    (ho : ∀ c a i, o = .package c a i → e.Issued c) : (e.allocate o).2.InOrder := by
  have hnext := e.not_issued_next
  have hissued : ∀ h, (e.allocate o).2.Issued h ↔ e.Issued h ∨ h = Handle.issuedAfter e.issued := by
    intro h
    constructor
    · rintro ⟨n, hn, rfl⟩
      rcases Nat.lt_succ_iff_lt_or_eq.mp hn with hn | rfl
      · exact .inl ⟨n, hn, rfl⟩
      · exact .inr rfl
    · rintro (hi | rfl)
      · exact hi.mono (Nat.le_succ _)
      · exact ⟨e.issued, Nat.lt_succ_self _, rfl⟩
  have hlive : ∀ h, h ∈ (e.allocate o).2.live ↔ h = Handle.issuedAfter e.issued ∨ h ∈ e.live :=
    fun _ => mem_live_insert
  refine ⟨?_, ?_, he.once, ?_⟩
  · intro h
    show _ ↔ h ∈ (e.allocate o).2.live ∨ h ∈ e.released
    rw [hissued, hlive, he.known]
    tauto
  · intro h hl
    show h ∉ e.released
    rcases (hlive h).mp hl with rfl | hl
    · intro hr
      exact hnext ((he.known _).mpr (.inr hr))
    · exact he.apart h hl
  · intro h c a i hf
    have hf' : (e.live.insert (Handle.issuedAfter e.issued) o)[h]? = some (.package c a i) := hf
    rw [Std.ExtTreeMap.getElem?_insert] at hf'
    split at hf'
    · next hc =>
      -- the new object itself: its container has a lower number
      obtain rfl := Std.LawfulEqCmp.compare_eq_iff_eq.mp hc
      obtain ⟨n, hn, rfl⟩ := ho c a i (Option.some.inj hf')
      exact Nat.add_lt_add_left hn _
    · exact he.parents h c a i hf'

theorem InOrder.issueAll (os : List LiveObject) :
    ∀ {e : Engine}, e.InOrder → (∀ o ∈ os, ∀ c a i, o = .package c a i → e.Issued c) →
      (e.issueAll os).InOrder := by
  induction os with
  | nil =>
    intro e he _
    exact he
  | cons o os ih =>
    intro e he ho
    refine ih (he.allocate (ho o List.mem_cons_self)) fun o' ho' c a i hp => ?_
    exact (ho o' (List.mem_cons_of_mem o ho') c a i hp).mono (Nat.le_succ _)

/-- Every outcome keeps the books in order. -/
theorem Outcome.inOrder (ho : Outcome r e reply e') (he : e.InOrder) : e'.InOrder := by
  cases ho with
  | answered => exact ⟨he.known, he.apart, he.once, he.parents⟩
  | refused => exact ⟨he.known, he.apart, he.once, he.parents⟩
  | dangled => exact ⟨he.known, he.apart, he.once, he.parents⟩
  | issued os _ _ parents =>
    have he' : (e.record r.call).InOrder := ⟨he.known, he.apart, he.once, he.parents⟩
    refine he'.issueAll os fun o ho c a i hp => ?_
    exact (he.known c).mpr (.inl (parents o ho c a i hp))
  | moved h c c' _ _ found =>
    have hmem : ∀ x, x ∈ e.live.insert h (.stream c') ↔ x ∈ e.live := by
      intro x
      rw [mem_live_insert]
      constructor
      · rintro (rfl | hx)
        · rw [Std.ExtTreeMap.mem_iff_isSome_getElem?, found]
          rfl
        · exact hx
      · exact .inr
    refine ⟨?_, ?_, he.once, ?_⟩
    · intro x
      show e.Issued x ↔ x ∈ e.live.insert h (.stream c') ∨ x ∈ e.released
      rw [hmem]
      exact he.known x
    · intro x hx
      exact he.apart x ((hmem x).mp hx)
    · intro x p a i hf
      have hf' : (e.live.insert h (.stream c'))[x]? = some (.package p a i) := hf
      rw [Std.ExtTreeMap.getElem?_insert] at hf'
      split at hf'
      · exact absurd hf' (by simp)
      · exact he.parents x p a i hf'
  | returned h o _ found _ =>
    have hlive : h ∈ e.live := by
      rw [Std.ExtTreeMap.mem_iff_isSome_getElem?, found]
      rfl
    have hpush : ∀ x, x ∈ e.released.push h ↔ x ∈ e.released ∨ x = h := by
      intro x
      exact Array.mem_push
    refine ⟨?_, ?_, ?_, ?_⟩
    · intro x
      show e.Issued x ↔ x ∈ e.live.erase h ∨ x ∈ e.released.push h
      rw [mem_live_erase, hpush, he.known]
      by_cases hx : x = h
      · simp [hx, hlive]
      · simp [hx]
    · intro x hx hr
      obtain ⟨hne, hx⟩ := mem_live_erase.mp hx
      rcases (hpush x).mp hr with hr | hr
      · exact he.apart x hx hr
      · exact hne hr
    · show (e.released.push h).toList.Nodup
      rw [Array.toList_push, List.nodup_append]
      refine ⟨he.once, List.nodup_singleton h, ?_⟩
      rintro x hx y hy rfl
      rw [List.mem_singleton] at hy
      exact he.apart h hlive (hy ▸ Array.mem_toList_iff.mp hx)
    · intro x p a i hf
      have hf' : (e.live.erase h)[x]? = some (.package p a i) := hf
      rw [Std.ExtTreeMap.getElem?_erase] at hf'
      split at hf'
      · exact absurd hf' (by simp)
      · exact he.parents x p a i hf'

/-- The handles handed out are the next ones, in order. -/
theorem Outcome.handed_eq (ho : Outcome r e reply e') :
    ∃ n, e'.issued = e.issued + n
      ∧ reply.handed = (List.range' e.issued n).map Handle.issuedAfter := by
  cases ho with
  | answered gives => exact ⟨0, rfl, gives⟩
  | moved _ _ _ gives => exact ⟨0, rfl, gives⟩
  | returned _ _ gives => exact ⟨0, rfl, gives⟩
  | refused gives => exact ⟨0, rfl, gives⟩
  | dangled gives => exact ⟨0, rfl, gives⟩
  | issued os _ gives _ =>
    obtain ⟨live, hl⟩ := issueAll_eq os (e.record r.call)
    exact ⟨os.length, by rw [hl]; rfl, gives⟩

/-- The call is recorded once, and nothing else is. -/
theorem Outcome.calls_eq (ho : Outcome r e reply e') : e'.calls = e.calls.push r.call := by
  cases ho with
  | answered => rfl
  | moved => rfl
  | returned => rfl
  | refused => rfl
  | dangled => rfl
  | issued os =>
    obtain ⟨live, hl⟩ := issueAll_eq os (e.record r.call)
    rw [hl]
    rfl

/-- Each counter grows by one if the call is that misuse, else it stays. -/
theorem Outcome.counter_eq (ho : Outcome r e reply e') (m : Misuse) :
    e'.counter m = e.counter m + if r.misuse? e = some m then 1 else 0 := by
  cases ho with
  | answered _ fair =>
    rw [fair]
    cases m <;> rfl
  | moved _ _ _ _ fair =>
    rw [fair]
    cases m <;> rfl
  | issued os fair =>
    obtain ⟨live, hl⟩ := issueAll_eq os (e.record r.call)
    rw [fair, hl]
    cases m <;> rfl
  | returned _ _ _ _ judged =>
    rcases judged with judged | judged <;> rw [judged] <;> cases m <;> rfl
  | refused _ judged =>
    rw [judged]
    cases m <;> rfl
  | dangled _ judged =>
    rw [judged]
    cases m <;> rfl

/-! ## §5. One use, and any number of them. -/

theorem use_inOrder (he : e.InOrder) (u : EngineUse) : (e.use u).InOrder := by
  cases u with
  | register path archive => exact ⟨he.known, he.apart, he.once, he.parents⟩
  | ask r => exact (perform_outcome he r).inOrder he

theorem given_eq (he : e.InOrder) (u : EngineUse) :
    ∃ n, (e.use u).issued = e.issued + n
      ∧ e.given u = (List.range' e.issued n).map Handle.issuedAfter := by
  cases u with
  | register path archive => exact ⟨0, rfl, rfl⟩
  | ask r => exact (perform_outcome he r).handed_eq

theorem use_calls (he : e.InOrder) (u : EngineUse) :
    (e.use u).calls.toList = e.calls.toList ++ u.call?.toList := by
  cases u with
  | register path archive => exact (List.append_nil _).symm
  | ask r =>
    show (e.perform r).2.calls.toList = _
    rw [(perform_outcome he r).calls_eq, Array.toList_push]
    rfl

theorem use_counter (he : e.InOrder) (u : EngineUse) (m : Misuse) :
    (e.use u).counter m = e.counter m + if u.misuse? e = some m then 1 else 0 := by
  cases u with
  | register path archive => cases m <;> rfl
  | ask r => exact (perform_outcome he r).counter_eq m

theorem afterUses_inOrder (us : List EngineUse) :
    ∀ {e : Engine}, e.InOrder → (e.afterUses us).InOrder := by
  induction us with
  | nil =>
    intro e he
    exact he
  | cons u us ih =>
    intro e he
    exact ih (use_inOrder he u)

/-- The handles of a run are those issued since its start, in order. -/
theorem handedOut_eq (us : List EngineUse) :
    ∀ {e : Engine}, e.InOrder → ∃ n, (e.afterUses us).issued = e.issued + n
      ∧ e.handedOut us = (List.range' e.issued n).map Handle.issuedAfter := by
  induction us with
  | nil =>
    intro e _
    exact ⟨0, rfl, rfl⟩
  | cons u us ih =>
    intro e he
    obtain ⟨n, hn, hg⟩ := given_eq he u
    obtain ⟨k, hk, hr⟩ := ih (use_inOrder he u)
    refine ⟨n + k, ?_, ?_⟩
    · show ((e.use u).afterUses us).issued = _
      rw [hk, hn, Nat.add_assoc]
    · rw [handedOut, hg, hr, hn, ← List.map_append, List.range'_append_1]

theorem afterUses_calls (us : List EngineUse) :
    ∀ {e : Engine}, e.InOrder →
      (e.afterUses us).calls.toList = e.calls.toList ++ us.filterMap EngineUse.call? := by
  induction us with
  | nil =>
    intro e _
    exact (List.append_nil _).symm
  | cons u us ih =>
    intro e he
    show ((e.use u).afterUses us).calls.toList = _
    rw [ih (use_inOrder he u), use_calls he, List.append_assoc]
    congr 1
    cases hu : u.call? <;> simp [hu]

theorem afterUses_counter (m : Misuse) (us : List EngineUse) :
    ∀ {e : Engine}, e.InOrder → (e.afterUses us).counter m = e.counter m + e.tally m us := by
  induction us with
  | nil =>
    intro e _
    rfl
  | cons u us ih =>
    intro e he
    show ((e.use u).afterUses us).counter m = _
    rw [ih (use_inOrder he u), use_counter he, tally, Nat.add_assoc]

/-! ## §6. The balance. -/

/-- A call counted as a double release does nothing else but leave its
record. -/
theorem perform_doubleRelease (he : e.InOrder) (hm : r.misuse? e = some .doubleRelease) :
    (e.perform r).1.handed = [] ∧
      (e.perform r).2 = { e.record r.call with doubleReleases := e.doubleReleases + 1 } := by
  have ho := perform_outcome he r
  generalize e.perform r = x at ho
  obtain ⟨reply, e'⟩ := x
  cases ho with
  | refused gives _ => exact ⟨gives, rfl⟩
  | answered _ fair => exact absurd (fair.symm.trans hm) (by simp)
  | moved _ _ _ _ fair => exact absurd (fair.symm.trans hm) (by simp)
  | issued _ fair => exact absurd (fair.symm.trans hm) (by simp)
  | returned _ _ _ _ judged => simp [hm] at judged
  | dangled _ judged => exact absurd (judged.symm.trans hm) (by simp)

/-- And so does a call counted as a dangling use. -/
theorem perform_danglingUse (he : e.InOrder) (hm : r.misuse? e = some .danglingUse) :
    (e.perform r).1.handed = [] ∧
      (e.perform r).2 = { e.record r.call with danglingUses := e.danglingUses + 1 } := by
  have ho := perform_outcome he r
  generalize e.perform r = x at ho
  obtain ⟨reply, e'⟩ := x
  cases ho with
  | dangled gives _ => exact ⟨gives, rfl⟩
  | answered _ fair => exact absurd (fair.symm.trans hm) (by simp)
  | moved _ _ _ _ fair => exact absurd (fair.symm.trans hm) (by simp)
  | issued _ fair => exact absurd (fair.symm.trans hm) (by simp)
  | returned _ _ _ _ judged => simp [hm] at judged
  | refused _ judged => exact absurd (judged.symm.trans hm) (by simp)

/-- After any uses of a fresh engine, as long as handles fit their words:
the handles handed out are the first ones, each once; they are what is live
and what was released, which are apart; each counter is the number of
misuses of its kind; the log has each call once; and a next call that is a
double release or a dangling use changes its counter and the log alone. -/
theorem books_balance (us : List EngineUse) (few : (empty.afterUses us).issued < 2 ^ 63) :
    let e := empty.afterUses us
    let handed := empty.handedOut us
    handed = (List.range e.issued).map (fun n => ⟨0x1001 + n⟩)
      ∧ handed.Nodup
      ∧ (∀ h ∈ handed, h.number < 2 ^ 64)
      ∧ (∀ h, h ∈ handed ↔ h ∈ e.live ∨ h ∈ e.released)
      ∧ (∀ h, h ∈ e.live → h ∉ e.released)
      ∧ e.released.toList.Nodup
      ∧ e.doubleReleases = empty.tally .doubleRelease us
      ∧ e.danglingUses = empty.tally .danglingUse us
      ∧ e.registryWarnings = empty.tally .earlyRelease us
      ∧ e.calls.toList = us.filterMap EngineUse.call?
      ∧ (∀ r : Request, r.misuse? e = some .doubleRelease →
          (e.perform r).2
            = { e with calls := e.calls.push r.call, doubleReleases := e.doubleReleases + 1 })
      ∧ ∀ r : Request, r.misuse? e = some .danglingUse →
          (e.perform r).2
            = { e with calls := e.calls.push r.call, danglingUses := e.danglingUses + 1 } := by
  intro e handed
  have he : e.InOrder := afterUses_inOrder us inOrder_empty
  have few' : e.issued < 2 ^ 63 := few
  have hhanded : handed = (List.range e.issued).map Handle.issuedAfter := by
    obtain ⟨n, hn, hg⟩ := handedOut_eq us inOrder_empty
    have hn' : e.issued = n := hn.trans (Nat.zero_add n)
    rw [hn', List.range_eq_range']
    exact hg
  have hmem : ∀ h, h ∈ handed ↔ e.Issued h := by
    intro h
    rw [hhanded, List.mem_map]
    constructor
    · rintro ⟨n, hn, rfl⟩
      exact ⟨n, List.mem_range.mp hn, rfl⟩
    · rintro ⟨n, hn, rfl⟩
      exact ⟨n, List.mem_range.mpr hn, rfl⟩
  have hcounter : ∀ m, e.counter m = empty.tally m us := by
    intro m
    rw [afterUses_counter m us inOrder_empty]
    cases m <;> exact Nat.zero_add _
  refine ⟨hhanded, ?_, ?_, ?_, he.apart, he.once, hcounter .doubleRelease, hcounter .danglingUse,
    hcounter .earlyRelease, ?_, ?_, ?_⟩
  · rw [hhanded]
    exact List.Nodup.map (fun _ _ => Handle.issuedAfter_injective) List.nodup_range
  · intro h hh
    obtain ⟨n, hn, rfl⟩ := (hmem h).mp hh
    show 0x1001 + n < 2 ^ 64
    omega
  · intro h
    rw [hmem]
    exact he.known h
  · exact afterUses_calls us inOrder_empty
  · intro r hr
    exact (perform_doubleRelease he hr).2
  · intro r hr
    exact (perform_danglingUse he hr).2

/-- A client that opens a book and its package, gives the package back too
early and twice, then asks about it, and gives back a handle never issued. -/
def carelessUses : List EngineUse :=
  [.register "book" { Archive.empty with packages := [.empty] }, .ask (.openArchive "book"),
    .ask (.packages ⟨0x1001⟩), .ask (.releaseHandle ⟨0x1002⟩), .ask (.releaseHandle ⟨0x1002⟩),
    .ask (.metadata ⟨0x1002⟩ .title), .ask (.readAll ⟨0x1001⟩ 8), .ask (.closeStream ⟨7⟩)]

theorem books_balance_careless :
    (empty.afterUses carelessUses).issued < 2 ^ 63
      ∧ (empty.afterUses carelessUses).doubleReleases = 2
      ∧ (empty.afterUses carelessUses).danglingUses = 2
      ∧ (empty.afterUses carelessUses).registryWarnings = 1
      ∧ empty.handedOut carelessUses = [⟨0x1001⟩, ⟨0x1002⟩]
      ∧ (∀ h, h ∈ empty.handedOut carelessUses ↔ h ∈ (empty.afterUses carelessUses).live
          ∨ h ∈ (empty.afterUses carelessUses).released) :=
  have few : (empty.afterUses carelessUses).issued < 2 ^ 63 := by decide +kernel
  ⟨few, by decide +kernel, by decide +kernel, by decide +kernel, by decide +kernel,
    (books_balance carelessUses few).2.2.2.1⟩

end Engine

end EpubAccess
