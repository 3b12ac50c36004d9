/-
  EpubAccess.Proofs.Fetches.Closing
  ────────────────────────────────
  What a closed package leaves to its fetches.

  A fetch without a stream gets none from a closed package: every use is
  refused, and the engine hears nothing of it (`FetchOp.run_onlyLogs`,
  `Host.FetchRefused`).  So over a run no fetch of a closed package gains a
  stream; one that has one has it from before the close, and is as it was then
  (`Host.SinceClose`).  `Host.closed_package_refuses_fetches` says so for
  every way in which a package is closed.
-/
import EpubAccess.Proofs.Engine.Calls
import EpubAccess.Proofs.Fetches.History
import EpubAccess.Proofs.Fetches.Lives

namespace EpubAccess

open Stateful

open Gateway (OnlyLogs)

/-! ## §1. Uses of a fetch whose package is closed. -/

/-- The answer of a fetch that holds no stream and gets none. -/
def FetchOp.refusal : FetchOp → FetchReply
  | ensureStream _ => .failed (.closed "package")
  | readAll | readRange .. => .bytes none
  | close => .done

section Closed

variable {f : Fetch} {p : Package} (hs : f.stream = none) (hc : p.isClosed = true) (attached : Bool)

include hs hc

theorem Fetch.ensureStream_onlyLogs (ranged : Bool) :
    OnlyLogs (.error (.closed "package"), f) (f.ensureStream p attached ranged) := by
  unfold ensureStream
  rw [hs]
  simp only [hc, if_true]
  exact .pure _

/-- **A use without a stream is refused** by a closed package, and nothing comes
of it but a note. -/
theorem FetchOp.run_onlyLogs (op : FetchOp) : OnlyLogs (op.refusal, f) (op.run f p attached) := by
  have hensure := Fetch.ensureStream_onlyLogs hs hc attached
  cases op with
  | ensureStream ranged => exact .bind (hensure ranged) (.pure _)
  | readAll => exact .bind (.bind (hensure _) (.bind (.emit _) (.pure _))) (.pure _)
  | readRange offset n => exact .bind (.bind (hensure _) (.bind (.emit _) (.pure _))) (.pure _)
  | close =>
    refine .bind (a := f) ?_ (.pure _)
    unfold Fetch.close
    rw [hs]
    exact .pure _

theorem Fetch.handOver_onlyLogs (ranged : Bool) :
    OnlyLogs (none, f) (f.handOver p attached ranged) :=
  .bind (Fetch.ensureStream_onlyLogs hs hc attached ranged) (.bind (.emit _) (.pure _))

end Closed

/-- A fetch that has a stream after a use has had it before, if its package is
closed: nothing happened to it. -/
theorem FetchOp.run_kept {f : Fetch} {p : Package} (hf : f.Holds) (hc : p.isClosed = true)
    (attached : Bool) (g : Gateway) (op : FetchOp)
    (hs : (op.run f p attached g).1.2.hasStream = true) : (op.run f p attached g).1.2 = f := by
  cases hstream : f.stream with
  | none =>
    obtain ⟨events, hrun⟩ := run_onlyLogs hstream hc attached op g
    rw [hrun]
  | some s =>
    have hleaves := (run_went hf p attached g op).2
    cases op with
    | ensureStream ranged =>
      have hhas : f.hasStream = true := by rw [Fetch.hasStream, hstream]; rfl
      rw [(Fetch.ensureStream_went hf p attached g ranged).2.2 hhas]
    | _ => exact absurd (hs.symm.trans hleaves) (by simp)

namespace Host

variable {w w' : Host} {slot : String} {f : Fetch} {k : PackageId}

/-! ## §2. Fetches in slots. -/

/-- A fetch that gets nothing: every use says so, leaves the fetch as it is and
makes no engine call. -/
structure FetchRefused (w : Host) (slot : String) (f : Fetch) : Prop where
  op : ∀ op : FetchOp, (run (.fetch slot op) w).1 = .fetchReply op.refusal f
    ∧ (run (.fetch slot op) w).2.gateway.engine = w.gateway.engine
  handOver : ∀ (ranged : Bool) (dest : String),
    (run (.handOver slot ranged dest) w).1 = .handedOver none f
      ∧ (run (.handOver slot ranged dest) w).2.gateway.engine = w.gateway.engine

theorem fetchRefused {p : Package} (hf : w.slots[slot]? = some (.fetch f))
    (hp : w.packages.get? f.package = some p) (hs : f.stream = none) (hc : p.isClosed = true) :
    FetchRefused w slot f := by
  refine ⟨fun op => ?_, fun ranged dest => ?_⟩
  · obtain ⟨events, huse⟩ := op.run_onlyLogs hs hc (w.isAttached p) w.gateway
    rw [run_fetch_apply op hf hp, huse]
    exact ⟨rfl, rfl⟩
  · obtain ⟨events, huse⟩ := Fetch.handOver_onlyLogs hs hc (w.isAttached p) ranged w.gateway
    have hrun : run (.handOver slot ranged dest) w = _ := withFetch_some hf hp
    simp only [bind_apply, get_apply, through_apply, pure_apply, huse] at hrun
    rw [hrun]
    exact ⟨rfl, rfl⟩

/-- Every fetch in a slot holds what it says: its stream is open, and the length
is noted. -/
def FetchesHold (w : Host) : Prop :=
  ∀ (slot : String) (f : Fetch), w.slots[slot]? = some (.fetch f) → f.Holds

theorem FetchesHold.step {c : Command} (h : FetchesHold w)
    (hlater : Later (w.scope c) w (run c w).2) : FetchesHold (run c w).2 := by
  intro slot f hf
  rcases hlater.slots slot with hsame | hput
  · exact h slot f (hsame.symm.trans hf)
  rw [hf] at hput
  -- what is put into a slot is a new fetch, or one that was used
  cases hput with
  | plain _ ho => exact absurd ho (by simp [Holding.isPlain])
  | newFetch => exact fun s hs => absurd hs (by simp [Fetch.start])
  | fetched hf' _ => exact (FetchOp.run_went (h _ _ hf') _ _ _ _).1.holds
  | handedOver hf' _ => exact (Fetch.handOver_went (h _ _ hf') _ _ _ _).1.holds

theorem fetchesHold_after (cs : List Command) : FetchesHold (after cs fresh) :=
  (after_induction cs .fresh (fun slot f hf => absurd hf (by simp [fresh]))
    fun _ _ _ _ h hlater => h.step hlater).2

/-! ## §3. Since the close. -/

/-- The package was closed in `w`, and in `w'` no fetch of it has a stream but
those that had it in `w` and were left alone. -/
structure SinceClose (w : Host) (k : PackageId) (w' : Host) : Prop where
  shut : w'.Shut k
  holds : FetchesHold w'
  kept : ∀ (slot : String) (f : Fetch), w'.slots[slot]? = some (.fetch f) → f.package = k →
    f.hasStream = true → w.slots[slot]? = some (.fetch f)

/-- One command after the close. -/
theorem SinceClose.step {w₀ : Host} {c : Command} (h : SinceClose w₀ k w)
    (hlater : Later (w.scope c) w (run c w).2) : SinceClose w₀ k (run c w).2 := by
  refine ⟨hlater.staysShut h.shut, h.holds.step hlater, fun slot f hf hk hs => ?_⟩
  rcases hlater.slots slot with hsame | hput
  · exact h.kept slot f (hsame.symm.trans hf) hk hs
  rw [hf] at hput
  cases hput with
  | plain _ ho => exact absurd ho (by simp [Holding.isPlain])
  | newFetch => exact absurd hs (by simp [Fetch.start, Fetch.hasStream])
  | @fetched _ op f' p hf' hp =>
    -- a fetch that was used stays with its package, which is closed
    have hpackage : _ = f'.package := (f'.run_forward p (w.isAttached p) op w.gateway).2
    have hc := h.shut.2 p (by rw [← hk, hpackage, hp])
    have hkept := FetchOp.run_kept (h.holds _ _ hf') hc (w.isAttached p) w.gateway op hs
    rw [hkept] at hk hs ⊢
    exact h.kept slot f' hf' hk hs
  | @handedOver _ _ ranged f' p hf' hp =>
    have hnone := (Fetch.handOver_went (h.holds _ _ hf') p (w.isAttached p) w.gateway ranged).2.1
    exact absurd hs (by simp [Fetch.hasStream, hnone])

/-- Whatever is done after the close. -/
theorem sinceClose_after (cs' : List Command) (hw : Consistent w) (hholds : FetchesHold w)
    (hk : w.Shut k) : SinceClose w k (after cs' w) :=
  (after_induction cs' hw ⟨hk, hholds, fun _ _ hf _ _ => hf⟩
    fun _ _ _ _ h hlater => h.step hlater).2

/-- **A closed package refuses its fetches.**  Whatever a host does, a package
is closed for good when it is closed itself, and when the container that lists
it is closed, is replaced or goes away.  A fetch of a closed package that holds
no stream is refused, and the engine hears nothing of it.  One that holds a
stream is as it was when the package was closed; ensuring a stream says that it
is there and asks the engine nothing, and every other use leaves none. -/
theorem closed_package_refuses_fetches (cs cs' : List Command) (k : PackageId) :
    let w := after cs fresh
    let w' := after cs' w
    (∀ c, Shuts w c k → (run c w).2.Shut k)
      ∧ (∀ id b, w.standing? id = some b → k ∈ b.packages →
          (∀ c, Closes w c id → (run c w).2.Shut k) ∧ (w'.standing? id = none → w'.Shut k))
      ∧ (w.Shut k → w'.Shut k
          ∧ ∀ (slot : String) (f : Fetch), w'.slots[slot]? = some (.fetch f) → f.package = k →
              (f.hasStream = false → FetchRefused w' slot f)
                ∧ (f.hasStream = true →
                    w.slots[slot]? = some (.fetch f) ∧ FetchAnswers w' slot f)) := by
  intro w w'
  have hw := consistent_after cs
  have hlater : Later .any w w' := after_later cs' hw
  refine ⟨fun c hc => run_shuts hw hc, fun id b hb hmem => ⟨fun c hc => ?_, fun hgone => ?_⟩,
    fun hk => ?_⟩
  · exact (run_later c hw).torn id b hb (run_closes hw hc) k hmem
  · exact hlater.torn id b hb hgone k hmem
  have hsince : SinceClose w k w' := sinceClose_after cs' hw (fetchesHold_after cs) hk
  refine ⟨hsince.shut, fun slot f hf hfk => ⟨fun hs => ?_, fun hs => ?_⟩⟩
  · obtain ⟨p, hp⟩ := hlater.after.fetch_package hf
    exact fetchRefused hf hp (by simpa [Fetch.hasStream] using hs) (hsince.shut.2 p (hfk ▸ hp))
  · exact ⟨hsince.kept slot f hf hfk hs, fetchAnswers hlater.after hf (hsince.holds slot f hf)⟩

/-- Two fetches of a package, one with a stream, and then the package closed. -/
def sampleHeldClosed : List Command := sampleHeld ++ [.package "package" .close]

theorem closed_package_refuses_fetches_sample :
    let w := after sampleHeldClosed fresh
    w.Shut 0
      ∧ (∃ f, w.slots["new"]? = some (.fetch f) ∧ FetchRefused w "new" f)
      ∧ ∃ f, w.slots["held"]? = some (.fetch f) ∧ FetchAnswers w "held" f := by
  intro w
  have hpackage : (after sampleHeld fresh).slots["package"]? = some (.package 0) :=
    Holding.eq_package (by decide +kernel)
  have hfetch : ∀ (slot : String) (b : Bool),
      (w.slots[slot]?.bind Holding.fetch?).map (fun f => (f.package, f.hasStream)) = some (0, b) →
      ∃ f, w.slots[slot]? = some (.fetch f) ∧ f.package = 0 ∧ f.hasStream = b := by
    intro slot b h
    obtain ⟨f, hf, heq⟩ := Option.map_eq_some_iff.mp h
    obtain ⟨hk, hs⟩ := Prod.mk.inj heq
    exact ⟨f, Holding.eq_fetch hf, hk, hs⟩
  -- the package is closed by the last command, and then its fetches are looked at
  have hshut : w.Shut 0 := by
    obtain ⟨hcloses, -⟩ := closed_package_refuses_fetches sampleHeld [] 0
    rw [show w = _ from after_concat sampleHeld (.package "package" .close) fresh]
    exact hcloses _ (.package hpackage)
  have hfetches := (closed_package_refuses_fetches sampleHeldClosed [] 0).2.2
  rw [after_nil] at hfetches
  obtain ⟨new, hnew, hnewk, hnews⟩ := hfetch "new" false (by decide +kernel)
  obtain ⟨held, hheld, hheldk, hhelds⟩ := hfetch "held" true (by decide +kernel)
  exact ⟨hshut, ⟨new, hnew, ((hfetches hshut).2 "new" new hnew hnewk).1 hnews⟩,
    ⟨held, hheld, (((hfetches hshut).2 "held" held hheld hheldk).2 hhelds).2⟩⟩

/-- A stream that is held outlives the close of the package: the fetch that
holds it still reads everything, where one without a stream is refused. -/
theorem held_stream_outlives_close :
    ((after sampleHeldClosed fresh).packages.get? 0).map Package.isClosed = some true
      ∧ (run (.fetch "held" .readAll) (after sampleHeldClosed fresh)).1.fetched?
          = some (some ⟨#[97, 98, 99]⟩)
      ∧ (run (.fetch "new" .readAll) (after sampleHeldClosed fresh)).1.fetched? = some none := by
  decide +kernel

end Host

end EpubAccess
