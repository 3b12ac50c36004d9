/-
  EpubAccess.Proofs.Lifetimes.Forward
  ────────────────────────────────
  What work at the gateway cannot undo.

  A handle that was given back stays so, a package stays attached where it
  was attached, and the list of a container only gains (`OwnedHandle.Later`,
  `Package.Later`, `Container.Later`).  The engine issues handles in order
  and takes no number back, whatever it is asked, also directly
  (`Engine.issued_perform_le`).  Faults are used up and never added.
  `Gateway.Forward post m` says that work `m` goes this way: it reaches the
  engine by requests alone, none of them for a navigation table
  (`Engine.Served`), and answers as `post` says; unlike `Gateway.Only` it asks
  nothing of the handles that are used.  The one operation that asks for a
  table is told apart (`Package.navigation_later`).
-/
import EpubAccess.Container
import EpubAccess.Engine.Request
import EpubAccess.Fetch
import EpubAccess.Package.ContentDescription
import EpubAccess.Stream.Operation

namespace EpubAccess

/-! ## §1. Objects. -/

/-- A later state of the same handle. -/
structure OwnedHandle.Later (x x' : OwnedHandle) : Prop where
  handle : x'.handle = x.handle
  kind : x'.kind = x.kind
  released : x.released = true → x'.released = true

namespace OwnedHandle.Later

variable {x x' x'' : OwnedHandle}

theorem refl (x : OwnedHandle) : x.Later x := ⟨rfl, rfl, id⟩

theorem trans (h : x.Later x') (h' : x'.Later x'') : x.Later x'' :=
  ⟨h'.handle.trans h.handle, h'.kind.trans h.kind, h'.released ∘ h.released⟩

end OwnedHandle.Later

/-- A later state of the same package. -/
structure Package.Later (p p' : Package) : Prop where
  handle : p.handle.Later p'.handle
  link : ∀ link, p.link = some link → p'.link = some link
  metadata : p'.metadata = p.metadata

namespace Package.Later

variable {p p' p'' : Package}

theorem refl (p : Package) : p.Later p := ⟨.refl _, fun _ h => h, rfl⟩

theorem trans (h : p.Later p') (h' : p'.Later p'') : p.Later p'' :=
  ⟨h.handle.trans h'.handle, fun link hl => h'.link link (h.link link hl),
    h'.metadata.trans h.metadata⟩

/-- A package that was closed stays closed. -/
theorem isClosed (h : p.Later p') (hc : p.isClosed = true) : p'.isClosed = true :=
  h.handle.released hc

end Package.Later

/-- A later state of the same container. -/
structure Container.Later (c c' : Container) : Prop where
  handle : c.handle.Later c'.handle
  path : c'.path = c.path
  packages : c.packages <+: c'.packages

namespace Container.Later

variable {c c' c'' : Container}

theorem refl (c : Container) : c.Later c := ⟨.refl _, rfl, List.prefix_rfl⟩

theorem trans (h : c.Later c') (h' : c'.Later c'') : c.Later c'' :=
  ⟨h.handle.trans h'.handle, h'.path.trans h.path, h.packages.trans h'.packages⟩

/-- A package that was listed stays listed. -/
theorem mem (h : c.Later c') {k : PackageId} (hk : k ∈ c.packages) : k ∈ c'.packages :=
  h.packages.subset hk

end Container.Later

/-! ## §2. Numbers of the engine. -/

namespace Engine

variable (e : Engine) {α : Type}

theorem issued_onPackage (h : Handle) (absent : α) (f : PackageDescription → α) :
    (e.onPackage h absent f).2.issued = e.issued := by
  unfold onPackage
  split
  · split <;> rfl
  · rfl

theorem issued_onCursor (h : Handle) (absent : α) (f : Cursor → α × Cursor) :
    (e.onCursor h absent f).2.issued = e.issued := by
  unfold onCursor
  split <;> rfl

theorem issued_takeBack (h : Handle) : (e.takeBack h).2.issued = e.issued := by
  unfold takeBack
  split
  · rfl
  · dsimp only
    split
    · split <;> rfl
    · rfl

/-- The engine went on from `e` to `e'` without a call; it issued handles at most. -/
structure Proceeds (e e' : Engine) : Prop where
  issued : e.issued ≤ e'.issued
  calls : e'.calls = e.calls

theorem Proceeds.refl (e : Engine) : Proceeds e e := ⟨Nat.le_refl _, rfl⟩

/-- Whatever is made of the answer. -/
theorem Proceeds.answer {e : Engine} {β : Type} {x : α × Engine} (h : Proceeds e x.2) (f : α → β) :
    Proceeds e (x.map f id).2 := h

theorem allocate_proceeds (o : LiveObject) : Proceeds e (e.allocate o).2 := ⟨Nat.le_succ _, rfl⟩

theorem onPackage_proceeds (h : Handle) (absent : α) (f : PackageDescription → α) :
    Proceeds e (e.onPackage h absent f).2 := by
  refine ⟨Nat.le_of_eq (e.issued_onPackage h absent f).symm, ?_⟩
  unfold onPackage
  split
  · split <;> rfl
  · rfl

theorem onCursor_proceeds (h : Handle) (absent : α) (f : Cursor → α × Cursor) :
    Proceeds e (e.onCursor h absent f).2 := by
  refine ⟨Nat.le_of_eq (e.issued_onCursor h absent f).symm, ?_⟩
  unfold onCursor
  split <;> rfl

theorem takeBack_proceeds (h : Handle) : Proceeds e (e.takeBack h).2 := by
  refine ⟨Nat.le_of_eq (e.issued_takeBack h).symm, ?_⟩
  unfold takeBack
  split
  · rfl
  · dsimp only
    split
    · split <;> rfl
    · rfl

theorem onContainer_proceeds (h : Handle) (absent : α) {f : String → Engine → α × Engine}
    (hf : ∀ a, Proceeds e (f a e).2) : Proceeds e (e.onContainer h absent f).2 := by
  unfold onContainer
  split
  · exact hf _
  · exact ⟨Nat.le_refl _, rfl⟩

theorem allocatePackages_proceeds (h : Handle) (archive : String) (index count : Nat) :
    Proceeds e (e.allocatePackages h archive index count).2 := by
  induction count generalizing e index with
  | zero => exact .refl e
  | succ count ih =>
    have hrest := ih (e.allocate (.package h archive index)).2 (index + 1)
    exact ⟨Nat.le_trans (Nat.le_succ _) hrest.issued, hrest.calls⟩

theorem openArchive_proceeds (path : String) :
    Proceeds (e.record (.open path)) (e.openArchive path).2 := by
  unfold openArchive
  dsimp only
  split
  · exact allocate_proceeds ..
  · exact .refl _

theorem packages_proceeds (h : Handle) : Proceeds (e.record (.packages h)) (e.packages h).2 := by
  refine onContainer_proceeds (e.record (.packages h)) h [] fun archive => ?_
  exact allocatePackages_proceeds ..

theorem rawContainerStream_proceeds (h : Handle) (path : String) :
    Proceeds (e.record (.rawContainerStream h path)) (e.rawContainerStream h path).2 := by
  refine onContainer_proceeds (e.record (.rawContainerStream h path)) h none fun archive => ?_
  dsimp only
  split
  · exact allocate_proceeds ..
  · exact .refl _

theorem resourceStream_proceeds (h : Handle) (path : String) (raw ranged : Bool) :
    Proceeds e (e.resourceStream h path raw ranged).2 := by
  have hfound := e.onPackage_proceeds h none fun d => d.resources[path]?
  unfold resourceStream
  generalize e.onPackage h none (fun d => d.resources[path]?) = found at hfound ⊢
  obtain ⟨_ | r, e'⟩ := found
  · exact hfound
  · exact ⟨Nat.le_succ_of_le hfound.issued, hfound.calls⟩

/-- **A request leaves one record**, and beyond that the engine issues handles
at most. -/
theorem perform_proceeds (r : Request) : Proceeds (e.record r.call) (e.perform r).2 := by
  cases r with
  | openArchive path => exact e.openArchive_proceeds path
  | openPlain path => exact e.openArchive_proceeds path
  | packages h => exact e.packages_proceeds h
  | rawContainerStream h path => exact e.rawContainerStream_proceeds h path
  | openStream h path ranged => exact resourceStream_proceeds (e.record _) h path false ranged
  | openRawStream h path => exact resourceStream_proceeds (e.record _) h path true false
  | containerVersion h => exact onContainer_proceeds (e.record _) h none fun _ => .refl _
  | releaseHandle h | closeStream h => exact takeBack_proceeds (e.record _) h
  -- the questions to a package
  | metadata | authorList | subjects | spineItems | manifestItems | mediaOverlay | property
  | hasProperty | navigation | probeSize => exact .answer (onPackage_proceeds (e.record _) _ _ _) _
  -- the operations of a cursor
  | readBytes | readAll | readRange | skip | mark | reset | available =>
    exact .answer (onCursor_proceeds (e.record _) _ _ _) _

/-- **Numbers are issued in order** and none is taken back, whatever the engine
is asked. -/
theorem issued_perform_le (r : Request) : e.issued ≤ (e.perform r).2.issued :=
  (e.perform_proceeds r).issued

end Engine

/-- Does the request ask for a navigation table? -/
def Request.isNavigation : Request → Bool
  | .navigation _ _ => true
  | _ => false

namespace Engine

/-- The engine went from `e` to `e'` by requests, none of them for a navigation
table. -/
def Served (e e' : Engine) : Prop :=
  ∃ rs : List Request, (∀ r ∈ rs, r.isNavigation = false)
    ∧ rs.foldl (fun e r => (e.perform r).2) e = e'

namespace Served

variable {e e' e'' : Engine}

theorem refl (e : Engine) : Served e e := ⟨[], by simp, rfl⟩

theorem one {r : Request} (hr : r.isNavigation = false) : Served e (e.perform r).2 :=
  ⟨[r], by simp [hr], rfl⟩

theorem trans (h : Served e e') (h' : Served e' e'') : Served e e'' := by
  obtain ⟨rs, hrs, rfl⟩ := h
  obtain ⟨rs', hrs', rfl⟩ := h'
  refine ⟨rs ++ rs', fun r hr => ?_, List.foldl_append⟩
  exact (List.mem_append.mp hr).elim (hrs r) (hrs' r)

/-- Requests take no number back. -/
theorem issued_le (h : Served e e') : e.issued ≤ e'.issued := by
  obtain ⟨rs, -, rfl⟩ := h
  induction rs generalizing e with
  | nil => exact Nat.le_refl _
  | cons r rs ih => exact Nat.le_trans (e.issued_perform_le r) ih

end Served

end Engine

/-- Of the faults that wait none makes bytes or a length up.  They refuse at most. -/
structure Faults.Refusing (q : Faults) : Prop where
  readRange : ∀ r ∈ q.readRange, ∃ e, r = .error e
  readBytes : q.readBytes = []
  readAll : q.readAll = []
  available : q.available = []

theorem Faults.Refusing.none : Faults.none.Refusing :=
  ⟨fun _ h => absurd h List.not_mem_nil, rfl, rfl, rfl⟩

theorem Faults.Refusing.of_none {q : Faults} (h : q = .none) : q.Refusing := h ▸ .none

/-! ## §3. Work at the gateway. -/

namespace Gateway

variable {α β : Type} {post : α → Prop}

/-- The gateway went from `g` to `g'`: the engine served requests, none of them
for a navigation table, and where faults only refused they still do. -/
structure Goes (g g' : Gateway) : Prop where
  served : g.engine.Served g'.engine
  refusing : g.faults.Refusing → g'.faults.Refusing

namespace Goes

variable {g g' g'' : Gateway}

theorem refl (g : Gateway) : Goes g g := ⟨.refl _, id⟩

theorem trans (h : Goes g g') (h' : Goes g' g'') : Goes g g'' :=
  ⟨h.served.trans h'.served, h'.refusing ∘ h.refusing⟩

theorem issued_le (h : Goes g g') : g.engine.issued ≤ g'.engine.issued := h.served.issued_le

end Goes

/-- Work that reaches the engine by requests alone, none of them for a
navigation table, and answers as `post` says. -/
def Forward (post : α → Prop) (m : StateM Gateway α) : Prop :=
  ∀ g : Gateway, g.Goes (m g).2 ∧ post (m g).1

/-- Work that reaches the engine by such requests alone. -/
abbrev Onward (m : StateM Gateway α) : Prop := Forward (fun _ => True) m

namespace Forward

theorem pure {a : α} (h : post a) : Forward post (pure a) := fun _ => ⟨.refl _, h⟩

theorem bind {m : StateM Gateway α} {f : α → StateM Gateway β} {post' : β → Prop}
    (hm : Forward post m) (hf : ∀ a, post a → Forward post' (f a)) : Forward post' (m >>= f) := by
  intro g
  obtain ⟨hgoes, ha⟩ := hm g
  obtain ⟨hgoes', hb⟩ := hf (m g).1 ha (m g).2
  exact ⟨hgoes.trans hgoes', hb⟩

theorem emit (e : Event) : Onward (Gateway.emit e) := fun _ => ⟨⟨.refl _, id⟩, trivial⟩

theorem emit? (e : Option Event) : Onward (Gateway.emit? e) := by
  cases e with
  | none => exact .pure trivial
  | some e => exact .emit e

/-- A call that does to the engine what a request does. -/
theorem call (r : Request) {f : Engine → α × Engine} (hf : ∀ e, (f e).2 = (e.perform r).2)
    (hr : r.isNavigation = false) : Onward (call f) := by
  intro g
  refine ⟨⟨?_, id⟩, trivial⟩
  show g.engine.Served (f g.engine).2
  rw [hf]
  exact .one hr

theorem refusable {refusals : Faults → Nat} {set : Nat → Faults → Faults}
    {f : Engine → Option Handle × Engine} (hf : Onward (Gateway.call f))
    (hset : ∀ n q, q.Refusing → (set n q).Refusing) : Onward (refusable refusals set f) := by
  intro g
  unfold Gateway.refusable
  split
  · exact hf g
  · exact ⟨⟨.refl _, hset _ _⟩, trivial⟩

theorem answerable {waiting : Faults → List α} {set : List α → Faults → Faults}
    {f : Engine → α × Engine} (hf : Onward (Gateway.call f))
    (hset : ∀ q a rest, waiting q = a :: rest → q.Refusing → (set rest q).Refusing) :
    Onward (answerable waiting set f) := by
  intro g
  unfold Gateway.answerable
  split
  · exact hf g
  · next a rest hwaiting => exact ⟨⟨.refl _, hset _ a rest hwaiting⟩, trivial⟩

theorem fallible {waiting : Faults → List EngineError} {set : List EngineError → Faults → Faults}
    {f : Engine → Except EngineError α × Engine} (hf : Onward (Gateway.call f))
    (hset : ∀ l q, q.Refusing → (set l q).Refusing) : Onward (fallible waiting set f) := by
  intro g
  unfold Gateway.fallible
  split
  · exact hf g
  · exact ⟨⟨.refl _, hset _ _⟩, trivial⟩

theorem foldlM {f : α → β → StateM Gateway α} (hf : ∀ a b, Onward (f a b)) (l : List β) (a : α) :
    Onward (l.foldlM f a) := by
  induction l generalizing a with
  | nil => exact .pure trivial
  | cons b l ih =>
    rw [List.foldlM_cons]
    exact .bind (hf a b) fun a' _ => ih a'

end Forward

variable (h : Handle)

theorem openArchive_onward (path : String) : Onward (openArchive path) :=
  .refusable (.call (.openArchive path) (fun _ => rfl) rfl) fun _ _ h => ⟨h.1, h.2, h.3, h.4⟩

theorem releaseHandle_onward : Onward (releaseHandle h) :=
  .bind (.call (.releaseHandle h) (fun _ => rfl) rfl) fun e _ => .emit? e

theorem closeStream_onward : Onward (closeStream h) :=
  .bind (.call (.closeStream h) (fun _ => rfl) rfl) fun e _ => .emit? e

theorem containerVersion_onward : Onward (containerVersion h) :=
  .call (.containerVersion h) (fun _ => rfl) rfl

theorem packages_onward : Onward (packages h) := .call (.packages h) (fun _ => rfl) rfl

theorem rawContainerStream_onward (path : String) : Onward (rawContainerStream h path) :=
  .refusable (.call (.rawContainerStream h path) (fun _ => rfl) rfl) fun _ _ h =>
    ⟨h.1, h.2, h.3, h.4⟩

theorem metadata_onward (field : MetadataField) : Onward (metadata h field) :=
  .call (.metadata h field) (fun _ => rfl) rfl

theorem authorList_onward : Onward (authorList h) := .call (.authorList h) (fun _ => rfl) rfl

theorem subjects_onward : Onward (subjects h) := .call (.subjects h) (fun _ => rfl) rfl

theorem spineItems_onward : Onward (spineItems h) := .call (.spineItems h) (fun _ => rfl) rfl

theorem manifestItems_onward : Onward (manifestItems h) :=
  .call (.manifestItems h) (fun _ => rfl) rfl

theorem mediaOverlay_onward : Onward (mediaOverlay h) := .call (.mediaOverlay h) (fun _ => rfl) rfl

theorem property_onward (name vocabulary : String) : Onward (property h name vocabulary) :=
  .call (.property h name vocabulary) (fun _ => rfl) rfl

theorem hasProperty_onward (name vocabulary : String) : Onward (hasProperty h name vocabulary) :=
  .call (.hasProperty h name vocabulary) (fun _ => rfl) rfl

theorem openStream_onward (path : String) (hint : UInt64) (ranged : Bool) :
    Onward (openStream h path hint ranged) :=
  .bind (fun _ => ⟨⟨.refl _, id⟩, trivial⟩) fun _ (_ : True) =>
    .refusable (.call (.openStream h path ranged) (fun _ => rfl) rfl) fun _ _ h =>
      ⟨h.1, h.2, h.3, h.4⟩

theorem openRawStream_onward (path : String) (hint : UInt64) : Onward (openRawStream h path hint) :=
  .bind (fun _ => ⟨⟨.refl _, id⟩, trivial⟩) fun _ (_ : True) =>
    .refusable (.call (.openRawStream h path) (fun _ => rfl) rfl) fun _ _ h => ⟨h.1, h.2, h.3, h.4⟩

theorem probeSize_onward (path : String) : Onward (probeSize h path) :=
  .answerable (.call (.probeSize h path) (fun _ => rfl) rfl) fun _ _ _ _ h => ⟨h.1, h.2, h.3, h.4⟩

theorem readBytes_onward (n : UInt64) : Onward (readBytes h n) :=
  .answerable (.call (.readBytes h n) (fun _ => rfl) rfl) fun _ _ _ hw hq =>
    absurd (hq.readBytes.symm.trans hw) (by simp)

theorem readAll_onward (n : UInt64) : Onward (readAll h n) :=
  .answerable (.call (.readAll h n) (fun _ => rfl) rfl) fun _ _ _ hw hq =>
    absurd (hq.readAll.symm.trans hw) (by simp)

theorem readRange_onward (offset n : UInt64) : Onward (readRange h offset n) :=
  .answerable (.call (.readRange h offset n) (fun _ => rfl) rfl) fun _ _ _ hw hq =>
    ⟨fun r hr => hq.readRange r (hw ▸ List.mem_cons_of_mem _ hr), hq.2, hq.3, hq.4⟩

theorem skip_onward (n : UInt64) : Onward (skip h n) :=
  .fallible (.call (.skip h n) (fun _ => rfl) rfl) fun _ _ h => ⟨h.1, h.2, h.3, h.4⟩

theorem mark_onward : Onward (mark h) :=
  .fallible (.call (.mark h) (fun _ => rfl) rfl) fun _ _ h => ⟨h.1, h.2, h.3, h.4⟩

theorem reset_onward (toMark : Bool) : Onward (reset h toMark) :=
  .fallible (.call (.reset h toMark) (fun _ => rfl) rfl) fun _ _ h => ⟨h.1, h.2, h.3, h.4⟩

theorem available_onward : Onward (available h) :=
  .answerable (.call (.available h) (fun _ => rfl) rfl) fun _ _ _ hw hq =>
    absurd (hq.available.symm.trans hw) (by simp)

end Gateway

/-! ## §4. Handles and streams. -/

open Gateway Stateful

namespace OwnedHandle

variable (x : OwnedHandle)

theorem giveBack_onward : Onward (x.giveBack : StateM Gateway Unit) := by
  unfold giveBack
  cases x.kind with
  | container => exact releaseHandle_onward _
  | package => exact releaseHandle_onward _
  | stream => exact closeStream_onward _

/-- After a release the handle is given back, whoever did it. -/
theorem release_forward :
    Forward (fun r => x.Later r.2 ∧ r.2.released = true)
      (x.release : StateM Gateway (Bool × OwnedHandle)) := by
  unfold release
  by_cases hr : x.released = true
  · rw [if_pos hr]
    exact .bind (.emit _) fun _ _ => .pure ⟨.refl x, hr⟩
  · rw [if_neg hr]
    exact .bind x.giveBack_onward fun _ _ => .pure ⟨⟨rfl, rfl, fun _ => rfl⟩, rfl⟩

theorem drop_onward : Onward (x.drop : StateM Gateway Unit) := by
  unfold drop
  split
  · exact .pure trivial
  · exact .bind (.emit _) fun _ _ => x.giveBack_onward

end OwnedHandle

namespace ContentStream

variable (s : ContentStream)

theorem ofHandle_onward (h : Handle) (path : String) (maxReadAll : UInt64) :
    Onward (ofHandle h path maxReadAll : StateM Gateway ContentStream) :=
  .bind (available_onward h) fun _ _ => .bind (.emit _) fun _ _ => .pure trivial

/-- A closed stream answers `f none` after a report, an open one `f` of its handle. -/
theorem live_bind_onward {β : Type} {f : Option Handle → StateM Gateway β} {x : StreamAccess}
    (hn : Onward (f none)) (hs : ∀ h, Onward (f (some h))) : Onward (s.live x >>= f) := by
  unfold live
  cases s.handle.get? with
  | none => exact .bind (.bind (.emit _) fun _ _ => .pure rfl) fun _ (ha : none = _) => ha ▸ hn
  | some h => exact hs h

theorem read_onward (n : UInt64) : Onward (s.read n : StateM Gateway _) := by
  refine s.live_bind_onward (.pure trivial) fun h => ?_
  dsimp only
  split
  · exact .pure trivial
  · exact .bind (readBytes_onward h _) fun _ _ => .pure trivial

theorem readChunks_onward (chunk : UInt64) (room : Nat) (front : ByteArray) :
    Onward (readChunks chunk room front s : StateM Gateway _) := by
  induction room generalizing front s with
  | zero => exact .pure trivial
  | succ room ih =>
    refine .bind (s.read_onward chunk) fun a _ => ?_
    dsimp only
    split
    · exact .pure trivial
    · exact ih a.2 _

theorem readAll_onward : Onward (s.readAll : StateM Gateway _) :=
  s.live_bind_onward (.pure trivial) fun h =>
    .bind (Gateway.readAll_onward h _) fun _ _ => .pure trivial

theorem readRange_onward (offset n : UInt64) :
    Onward (s.readRange offset n : StateM Gateway _) := by
  refine s.live_bind_onward (.pure trivial) fun h => ?_
  dsimp only
  split
  · exact .pure trivial
  · refine .bind (Gateway.readRange_onward h offset _) fun r _ => ?_
    cases r <;> exact .pure trivial

theorem skip_onward (n : UInt64) : Onward (s.skip n : StateM Gateway _) := by
  refine s.live_bind_onward (.pure trivial) fun h => ?_
  dsimp only
  split
  · exact .pure trivial
  · refine .bind (Gateway.skip_onward h _) fun r _ => ?_
    cases r <;> exact .pure trivial

theorem setMark_onward : Onward (s.setMark : StateM Gateway _) :=
  s.live_bind_onward (.pure trivial) fun h =>
    .bind (mark_onward h) fun r _ => by
      cases r <;> exact .pure trivial

theorem reset_onward (toMark : Bool) : Onward (s.reset toMark : StateM Gateway _) :=
  s.live_bind_onward (.pure trivial) fun h =>
    .bind (Gateway.reset_onward h toMark) fun r _ => by
      cases r <;> exact .pure trivial

theorem seek_onward (position : UInt64) : Onward (s.seek position : StateM Gateway _) := by
  refine s.live_bind_onward (.pure trivial) fun _ => .bind (s.reset_onward false) fun a _ => ?_
  obtain ⟨r, s'⟩ := a
  cases r with
  | error e => exact .pure trivial
  | ok _ => exact s'.skip_onward position

theorem seekTo_onward (t : SeekTarget) : Onward (s.seekTo t : StateM Gateway _) := by
  unfold seekTo
  split
  · exact .pure trivial
  · dsimp only
    split
    · refine .bind (s.skip_onward _) fun a _ => ?_
      obtain ⟨_ | _, _⟩ := a <;> exact .pure trivial
    · refine .bind (s.seek_onward _) fun a _ => ?_
      obtain ⟨_ | _, _⟩ := a <;> exact .pure trivial

theorem close_onward : Onward (s.close : StateM Gateway _) := by
  refine .bind s.handle.release_forward fun r _ => ?_
  dsimp only
  split
  · exact .bind (.emit _) fun _ _ => .pure trivial
  · exact .pure trivial

end ContentStream

/-- Every operation of a stream goes forward. -/
theorem StreamOp.run_onward (s : ContentStream) (op : StreamOp) :
    Onward (op.run s : StateM Gateway _) := by
  cases op with
  | read n => exact .bind (s.read_onward n) fun _ _ => .pure trivial
  | readInto b =>
    exact .bind (.bind (s.read_onward _) fun _ _ => .pure trivial) fun _ (_ : True) => .pure trivial
  | readToEnd n => exact .bind (s.readChunks_onward n _ _) fun _ _ => .pure trivial
  | available =>
    exact .bind (s.live_bind_onward (.pure trivial) fun h => available_onward h) fun _ _ =>
      .pure trivial
  | readAll => exact .bind s.readAll_onward fun _ _ => .pure trivial
  | readRange o n => exact .bind (s.readRange_onward o n) fun _ _ => .pure trivial
  | skip n => exact .bind (s.skip_onward n) fun _ _ => .pure trivial
  | mark => exact .bind s.setMark_onward fun _ _ => .pure trivial
  | reset b => exact .bind (s.reset_onward b) fun _ _ => .pure trivial
  | seek n => exact .bind (s.seek_onward n) fun _ _ => .pure trivial
  | seekTo t => exact .bind (s.seekTo_onward t) fun _ _ => .pure trivial
  | position => exact .pure trivial
  | close => exact .bind s.close_onward fun _ _ => .pure trivial

/-! ## §5. Packages and containers. -/

namespace Package

/-- A package is loaded over its handle, attached to nothing and without a
navigation table. -/
theorem load_forward (h : Handle) (config : Config) :
    Forward
      (fun p => p.handle = .take h .package ∧ p.link = none ∧ p.navigationCache = fun _ => none)
      (Package.load h config) := by
  have hfield : ∀ m field, Onward (loadField h m field) :=
    fun _ field => .bind (metadata_onward h field) fun _ _ => .pure trivial
  have hmetadata : Onward (loadMetadata h) :=
    .bind (.foldlM hfield _ _) fun _ _ =>
    .bind (authorList_onward h) fun _ _ => .bind (subjects_onward h) fun _ _ =>
    .bind (Gateway.property_onward h _ _) fun _ _ =>
    .bind (Gateway.property_onward h _ _) fun _ _ =>
    .bind (Gateway.property_onward h _ _) fun _ _ =>
    .bind (Gateway.property_onward h _ _) fun _ _ =>
    .pure trivial
  exact .bind hmetadata fun _ _ => .bind (spineItems_onward h) fun _ _ =>
    .bind (manifestItems_onward h) fun _ _ => .bind (mediaOverlay_onward h) fun _ _ =>
    .bind (.emit _) fun _ _ => .pure ⟨rfl, rfl, rfl⟩

variable (p : Package)

/-- After a package was closed it is so, whoever did it. -/
theorem close_forward : Forward (fun r => p.Later r.2 ∧ r.2.isClosed = true) p.close := by
  refine .bind p.handle.release_forward fun r hr => ?_
  dsimp only
  split
  · exact .bind (.emit _) fun _ _ => .pure ⟨⟨hr.1, fun _ h => h, rfl⟩, hr.2⟩
  · exact .pure ⟨⟨hr.1, fun _ h => h, rfl⟩, hr.2⟩

/-- A closed package answers `f none` after a report, an open one `f` of its handle. -/
theorem live_bind_forward {β : Type} {post : β → Prop} {f : Option Handle → StateM Gateway β}
    {x : PackageAccess} (hn : Forward post (f none)) (hs : ∀ h, Forward post (f (some h))) :
    Forward post (p.live x >>= f) := by
  unfold live
  cases p.handle.get? with
  | none => exact .bind (.bind (.emit _) fun _ _ => .pure rfl) fun _ (ha : none = _) => ha ▸ hn
  | some h => exact hs h

variable {p} in
/-- An open package goes on with its handle. -/
theorem live_bind_of_open (hopen : p.isClosed = false) {β : Type} {x : PackageAccess}
    {f : Option Handle → StateM Gateway β} : p.live x >>= f = f (some p.handle.handle) := by
  unfold live OwnedHandle.get?
  rw [show p.handle.released = false from hopen]
  rfl

theorem property_onward (name vocabulary : String) : Onward (p.property name vocabulary) :=
  p.live_bind_forward (.pure trivial) fun h => Gateway.property_onward h _ _

theorem hasProperty_onward (name vocabulary : String) : Onward (p.hasProperty name vocabulary) :=
  p.live_bind_forward (.pure trivial) fun h => Gateway.hasProperty_onward h _ _

/-- Asking for a navigation table takes no number back and leaves the same
package, as open as before. -/
theorem navigation_later (kind : NavKind) (g : Gateway) :
    g.engine.issued ≤ (p.navigation kind g).2.engine.issued
      ∧ p.Later (p.navigation kind g).1.2 ∧ (p.navigation kind g).1.2.handle = p.handle := by
  unfold navigation live
  cases p.handle.get? with
  | none => exact ⟨Nat.le_refl _, .refl p, rfl⟩
  | some h =>
    dsimp only
    rw [bind_apply, pure_apply]
    dsimp only
    cases p.navigationCache kind with
    | some known => exact ⟨Nat.le_refl _, .refl p, rfl⟩
    | none =>
      exact ⟨g.engine.issued_perform_le (.navigation h kind), ⟨.refl _, fun _ h => h, rfl⟩, rfl⟩

theorem describe_onward : Onward p.describe := by
  unfold describe
  dsimp only
  split
  · exact .bind (.emit _) fun _ _ => .pure trivial
  · exact .pure trivial

theorem reach_onward (attached : Bool) (path : String) : Onward (reach attached path) := by
  unfold reach
  split
  · exact .pure trivial
  · exact .bind (.emit _) fun _ _ => .pure trivial

theorem probeSize_onward (attached : Bool) (path : String) :
    Onward (p.probeSize attached path) := by
  refine p.live_bind_forward (.pure trivial) fun h => .bind (reach_onward _ _) fun a _ => ?_
  cases a with
  | false => exact .pure trivial
  | true => exact .bind (Gateway.probeSize_onward h path) fun _ _ => .pure trivial

theorem streamOver_onward (path : String) (h : Option Handle) : Onward (p.streamOver path h) := by
  cases h with
  | none => exact .pure trivial
  | some h => exact .bind (ContentStream.ofHandle_onward h path _) fun _ _ => .pure trivial

theorem openStream_onward (attached : Bool) (path : String) (ranged : Bool) :
    Onward (p.openStream attached path ranged) := by
  refine p.live_bind_forward (.pure trivial) fun h => .bind (reach_onward _ _) fun a _ => ?_
  cases a with
  | false => exact .pure trivial
  | true =>
    exact .bind (Gateway.openStream_onward h path _ ranged) fun _ _ => p.streamOver_onward path _

theorem openRawStream_onward (attached : Bool) (path : String) :
    Onward (p.openRawStream attached path) := by
  refine p.live_bind_forward (.pure trivial) fun h => .bind (reach_onward _ _) fun a _ => ?_
  cases a with
  | false => exact .pure trivial
  | true =>
    exact .bind (Gateway.openRawStream_onward h path _) fun _ _ => p.streamOver_onward path _

end Package

namespace Container

variable (c : Container)

theorem rawStream_onward (path : String) : Onward (c.rawStream path) := by
  unfold rawStream
  cases c.handle.get? with
  | none => exact .bind (.emit _) fun _ _ => .pure trivial
  | some h =>
    refine .bind (rawContainerStream_onward h path) fun s _ => ?_
    cases s with
    | none => exact .pure trivial
    | some s => exact .bind (ContentStream.ofHandle_onward s path _) fun _ _ => .pure trivial

theorem rawBytes_onward (path : String) : Onward (c.rawBytes path) := by
  refine .bind (c.rawStream_onward path) fun s _ => ?_
  cases s with
  | none => exact .pure trivial
  | some s =>
    exact .bind s.readAll_onward fun a _ => .bind a.2.close_onward fun _ _ => .pure trivial

end Container

/-! ## §6. Fetches. -/

namespace Fetch

variable (f : Fetch) (p : Package) (attached : Bool)

theorem close_forward : Forward (fun f' => f'.package = f.package) f.close := by
  unfold close
  cases f.stream with
  | none => exact .pure rfl
  | some s => exact .bind s.close_onward fun _ _ => .pure rfl

/-- The opening that a fetch without a stream asks for. -/
def opening (ranged : Bool) : StateM Gateway (Option ContentStream) :=
  if f.raw then p.openRawStream attached f.path else p.openStream attached f.path ranged

/-- The stream that was opened, if any, kept. -/
def keep (f : Fetch) : Option ContentStream → Except AccessError ContentStream × Fetch
  | none => (.error (.streamUnavailable f.path), f)
  | some s => (.ok s, { f with stream := some s, contentLength := some s.length })

variable {f p} in
theorem ensureStream_of_some {s : ContentStream} (hs : f.stream = some s) (attached ranged : Bool)
    (g : Gateway) : f.ensureStream p attached ranged g = ((.ok s, f), g) := by
  unfold ensureStream
  rw [hs]
  rfl

variable {f p} in
theorem ensureStream_of_closed (hs : f.stream = none) (hp : p.isClosed = true)
    (attached ranged : Bool) (g : Gateway) :
    f.ensureStream p attached ranged g = ((.error (.closed "package"), f), g) := by
  unfold ensureStream
  rw [hs]
  dsimp only
  rw [if_pos hp]
  rfl

variable {f p} in
/-- A fetch of an open package keeps what it opens. -/
theorem ensureStream_of_none (hs : f.stream = none) (hp : p.isClosed = false)
    (attached ranged : Bool) :
    f.ensureStream p attached ranged = f.keep <$> f.opening p attached ranged := by
  have hkeep : ∀ m : StateM Gateway (Option ContentStream),
      f.keep <$> m = m >>= fun r => pure (f.keep r) :=
    fun m => map_eq_pure_bind f.keep m
  unfold ensureStream opening
  rw [hs, hkeep]
  dsimp only
  rw [hp, if_neg Bool.false_ne_true]
  by_cases hraw : f.raw = true
  · rw [if_pos hraw, if_pos hraw]
    refine bind_congr fun r => ?_
    cases r <;> rfl
  · rw [if_neg hraw, if_neg hraw]
    refine bind_congr fun r => ?_
    cases r <;> rfl

theorem ensureStream_forward (ranged : Bool) :
    Forward (fun r => r.2.package = f.package) (f.ensureStream p attached ranged) := by
  unfold ensureStream
  cases f.stream with
  | some s => exact .pure rfl
  | none =>
    dsimp only
    split
    · exact .pure rfl
    · split
      · refine .bind (p.openRawStream_onward attached f.path) fun s _ => ?_
        cases s <;> exact .pure rfl
      · refine .bind (p.openStream_onward attached f.path ranged) fun s _ => ?_
        cases s <;> exact .pure rfl

theorem readAll_forward :
    Forward (fun r => r.2.package = f.package) (f.readAll p attached) := by
  refine .bind (f.ensureStream_forward p attached false) fun r hr => ?_
  obtain ⟨_ | s, f'⟩ := r
  · exact .bind (.emit _) fun _ _ => .pure hr
  · exact .bind s.readAll_onward fun _ _ => .bind (close_forward _) fun _ hc => .pure (hc.trans hr)

theorem readRange_forward (offset n : UInt64) :
    Forward (fun r => r.2.package = f.package) (f.readRange p attached offset n) := by
  refine .bind (f.ensureStream_forward p attached true) fun r hr => ?_
  obtain ⟨_ | s, f'⟩ := r
  · exact .bind (.emit _) fun _ _ => .pure hr
  · dsimp only
    split
    · exact .bind (close_forward _) fun _ hc => .pure (hc.trans hr)
    · refine .bind (s.readRange_onward offset n) fun a _ => ?_
      obtain ⟨_ | b, s'⟩ := a
      · exact .bind (.emit _) fun _ _ => .bind (close_forward _) fun _ hc => .pure (hc.trans hr)
      · exact .bind (close_forward _) fun _ hc => .pure (hc.trans hr)

theorem handOver_forward (ranged : Bool) :
    Forward (fun r => r.2.package = f.package) (f.handOver p attached ranged) := by
  refine .bind (f.ensureStream_forward p attached ranged) fun r hr => ?_
  obtain ⟨_ | s, f'⟩ := r
  · exact .bind (.emit _) fun _ _ => .pure hr
  · exact .pure hr

/-- A fetch stays with its package, whatever it is used for. -/
theorem run_forward (op : FetchOp) :
    Forward (fun r => r.2.package = f.package) (op.run f p attached) := by
  cases op with
  | ensureStream ranged =>
    refine .bind (f.ensureStream_forward p attached ranged) fun r hr => ?_
    obtain ⟨_ | s, f'⟩ := r <;> exact .pure hr
  | readAll => exact .bind (f.readAll_forward p attached) fun _ hr => .pure hr
  | readRange offset n => exact .bind (f.readRange_forward p attached offset n) fun _ hr => .pure hr
  | close => exact .bind f.close_forward fun _ hr => .pure hr

end Fetch

end EpubAccess
