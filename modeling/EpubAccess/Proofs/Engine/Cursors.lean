/-
  EpubAccess.Proofs.Engine.Cursors
  ────────────────────────────────
  The engine's cursors stay inside their bytes.

  `Engine.perform?` answers a request with every range of bytes checked before
  it is cut out, and has no answer where a check fails.

  Main results:

    • `Cursor.Moves`: a cursor goes elsewhere in the same bytes and stays within
      them, whatever the operation and its numbers,
    • `Engine.perform_touches`: a request touches the object it names and no other
      that was issued before,
    • `Engine.perform?_eq`: while the streams are within their bytes no check fails,
    • `Engine.cursors_stay_inside`: all of this after any uses of a fresh engine.
-/
import EpubAccess.Proofs.Engine.Registry
import EpubAccess.Proofs.Packages.Opening

namespace EpubAccess

/-! ## §1. Cursors. -/

namespace Cursor

/-- The cursor went from `c` to `c'` over the same bytes, and not out of them. -/
structure Moves (c c' : Cursor) : Prop where
  bytes : c.SameBytes c'
  within : c.Within → c'.Within

theorem Moves.refl (c : Cursor) : Moves c c := ⟨⟨rfl, rfl, rfl⟩, id⟩

theorem Moves.trans {c c' c'' : Cursor} (h : Moves c c') (h' : Moves c' c'') : Moves c c'' := by
  obtain ⟨⟨hcontents, hseekable, hranged⟩, hwithin⟩ := h
  obtain ⟨⟨hcontents', hseekable', hranged'⟩, hwithin'⟩ := h'
  exact ⟨⟨hcontents'.trans hcontents, hseekable'.trans hseekable, hranged'.trans hranged⟩,
    hwithin' ∘ hwithin⟩

theorem within_start (contents : Contents) (seekable ranged : Bool) :
    (start contents seekable ranged).Within :=
  ⟨Nat.zero_le _, Nat.zero_le _⟩

variable (c : Cursor)

/-- What is taken ends within the bytes. -/
theorem stop_le {c : Cursor} (h : c.position ≤ c.contents.size) (n : Nat) :
    c.position + min n c.remaining ≤ c.contents.size := by
  unfold remaining
  omega

theorem take_moves (n : Nat) : c.Moves (c.take n).2 :=
  ⟨c.take_sameBytes n, fun h => ⟨stop_le h.1 n, h.2⟩⟩

theorem readRange_moves (offset n : Nat) : c.Moves (c.readRange offset n).2 := by
  refine ⟨c.readRange_sameBytes offset n, ?_⟩
  intro h
  unfold readRange
  split
  · -- the jump ends within the bytes, and the bytes are taken from there
    have hjump : Within { c with position := min offset c.contents.size } :=
      ⟨Nat.min_le_right _ _, h.2⟩
    exact (take_moves _ n).within hjump
  · exact h

theorem skip_moves (n : Nat) : c.Moves (c.skip n).2 := by
  refine ⟨c.skip_sameBytes n, ?_⟩
  intro h
  unfold skip
  split
  · exact ⟨Nat.min_le_right _ _, h.2⟩
  · exact h

theorem setMark_moves : c.Moves c.setMark.2 := by
  refine ⟨c.setMark_sameBytes, ?_⟩
  intro h
  unfold setMark
  split
  · exact ⟨h.1, h.1⟩
  · exact h

theorem reset_moves (toMark : Bool) : c.Moves (c.reset toMark).2 := by
  refine ⟨c.reset_sameBytes toMark, ?_⟩
  intro h
  unfold reset
  split
  · cases toMark with
    | true => exact ⟨h.2, h.2⟩
    | false => exact ⟨Nat.zero_le _, h.2⟩
  · exact h

/-! ### The same, checked. -/

/-- The bytes from one position to another, if these are positions in order. -/
def slice? (bytes : ByteArray) (start stop : Nat) : Option ByteArray :=
  if start ≤ stop ∧ stop ≤ bytes.size then some (bytes.extract start stop) else none

/-- Up to `n` bytes at the position, if its sum with their number is a word of
64 bits and the range is one of the bytes. -/
def take? (n : Nat) : Option (ByteArray × Cursor) :=
  let stop := c.position + min n c.remaining
  if stop < 2 ^ 64 then
    (slice? c.contents.bytes c.position stop).map fun bytes => (bytes, { c with position := stop })
  else none

/-- Up to `n` bytes at an offset, checked. -/
def readRange? (offset n : Nat) : Option (Except EngineError ByteArray × Cursor) :=
  if c.ranged || c.seekable then
    (take? { c with position := min offset c.contents.size } n).map fun (bytes, c) => (.ok bytes, c)
  else some (.error (.unsupported "range read"), c)

/-- **No check fails at a position within the bytes.** -/
theorem take?_eq {c : Cursor} (h : c.position ≤ c.contents.size) (n : Nat) :
    c.take? n = some (c.take n) := by
  have hstop : c.position + min n c.remaining ≤ c.contents.size := stop_le h n
  have hword : c.position + min n c.remaining < 2 ^ 64 := by
    have hsize : c.contents.size < 0x8000000000000000 := c.contents.size_lt
    omega
  unfold take? slice?
  rw [if_pos hword, if_pos ⟨Nat.le_add_right _ _, hstop⟩]
  rfl

/-- A jump goes within the bytes, wherever the cursor was. -/
theorem readRange?_eq (offset n : Nat) :
    c.readRange? offset n = some (c.readRange offset n) := by
  have htake := take?_eq (c := { c with position := min offset c.contents.size })
    (Nat.min_le_right _ _) n
  unfold readRange? readRange
  split
  · rw [htake]
    rfl
  · rfl

end Cursor

/-! ## §2. Objects. -/

/-- What may become of an object while it is live: a cursor may move. -/
inductive LiveObject.Becomes : LiveObject → LiveObject → Prop
  | same (o : LiveObject) : Becomes o o
  | moved {c c' : Cursor} (moves : c.Moves c') : Becomes (.stream c) (.stream c')

/-- If the object is a stream, its cursor is within its bytes. -/
def LiveObject.Placed (o : LiveObject) : Prop := ∀ c, o = .stream c → c.Within

namespace LiveObject

variable {o o' o'' : LiveObject}

theorem Becomes.trans (h : o.Becomes o') (h' : o'.Becomes o'') : o.Becomes o'' := by
  cases h with
  | same => exact h'
  | moved moves =>
    cases h' with
    | same => exact .moved moves
    | moved moves' => exact .moved (moves.trans moves')

/-- What a stream becomes is a stream over the same bytes. -/
theorem Becomes.stream {c : Cursor} (h : Becomes (.stream c) o') :
    ∃ c', o' = .stream c' ∧ c.Moves c' := by
  cases h with
  | same => exact ⟨c, rfl, .refl c⟩
  | moved moves => exact ⟨_, rfl, moves⟩

theorem Placed.becomes (ho : o.Placed) (h : o.Becomes o') : o'.Placed := by
  intro c' hc
  cases h with
  | same => exact ho c' hc
  | moved moves =>
    cases hc
    exact moves.within (ho _ rfl)

theorem Placed.container (archive : String) : Placed (.container archive) :=
  fun _ h => LiveObject.noConfusion h

theorem Placed.package (container : Handle) (archive : String) (index : Nat) :
    Placed (.package container archive index) :=
  fun _ h => LiveObject.noConfusion h

theorem Placed.start (contents : Contents) (seekable ranged : Bool) :
    Placed (.stream (.start contents seekable ranged)) := by
  intro c h
  cases h
  exact Cursor.within_start contents seekable ranged

end LiveObject

/-! ## §3. What a call touches. -/

namespace Engine

/-- From `e` to `e'` objects moved, went or came: what is live was live before
under the same handle, or came under a handle that had not been issued. -/
structure Keeps (e e' : Engine) : Prop where
  issued : e.issued ≤ e'.issued
  origin : ∀ (h : Handle) (o' : LiveObject), e'.live[h]? = some o' →
    (∃ o, e.live[h]? = some o ∧ o.Becomes o') ∨ (¬ e.Issued h ∧ o'.Placed)

theorem Keeps.refl (e : Engine) : Keeps e e := ⟨Nat.le_refl _, fun _ o' h => .inl ⟨o', h, .same o'⟩⟩

theorem Keeps.trans {e e' e'' : Engine} (h : Keeps e e') (h' : Keeps e' e'') : Keeps e e'' := by
  refine ⟨Nat.le_trans h.issued h'.issued, ?_⟩
  intro x o'' ho''
  -- the object was there at the start, or came in the first step, or in the second
  rcases h'.origin x o'' ho'' with ⟨o', ho', hbecomes'⟩ | ⟨hnew, hplaced⟩
  · rcases h.origin x o' ho' with ⟨o, ho, hbecomes⟩ | ⟨hnew, hplaced⟩
    · exact .inl ⟨o, ho, hbecomes.trans hbecomes'⟩
    · exact .inr ⟨hnew, hplaced.becomes hbecomes'⟩
  · exact .inr ⟨fun hissued => hnew (hissued.mono h.issued), hplaced⟩

/-- Of the handles issued by `e` only `h?` may lead elsewhere in `e'`. -/
structure Touches (h? : Option Handle) (e e' : Engine) : Prop extends Keeps e e' where
  apart : ∀ h : Handle, e.Issued h → h? ≠ some h → e'.live[h]? = e.live[h]?

variable {e e' : Engine} {h? : Option Handle} {α : Type}

theorem Touches.of_live (hlive : e'.live = e.live) (hissued : e'.issued = e.issued) :
    Touches h? e e' := by
  refine ⟨⟨Nat.le_of_eq hissued.symm, ?_⟩, ?_⟩
  · intro h o' ho'
    rw [hlive] at ho'
    exact .inl ⟨o', ho', .same o'⟩
  · intro h _ _
    rw [hlive]

/-- The record of a call touches nothing. -/
theorem Touches.of_record {c : Call} (h : Touches h? (e.record c) e') : Touches h? e e' :=
  ⟨⟨h.issued, h.origin⟩, h.apart⟩

/-- Whatever is made of the answer. -/
theorem Touches.answer {β : Type} {x : α × Engine} (h : Touches h? e x.2) (f : α → β) :
    Touches h? e (x.map f id).2 := h

/-- New objects come under handles that had not been issued. -/
theorem issueAll_touches {os : List LiveObject} (hos : ∀ o ∈ os, o.Placed) :
    Touches h? e (e.issueAll os) := by
  have hissued : e.issued ≤ (e.issueAll os).issued := by
    obtain ⟨live, hall⟩ := issueAll_eq os e
    rw [hall]
    exact Nat.le_add_right _ _
  have hnotIssued : ∀ i, ¬ e.Issued (.issuedAfter (e.issued + i)) := by
    rintro i ⟨n, hn, heq⟩
    have hnumber : e.issued + i = n := Handle.issuedAfter_injective heq
    omega
  refine ⟨⟨hissued, ?_⟩, ?_⟩
  · intro h o' ho'
    -- the handle is one of the new ones, or leads where it led
    by_cases hnew : ∃ i, i < os.length ∧ h = .issuedAfter (e.issued + i)
    · obtain ⟨i, hi, rfl⟩ := hnew
      rw [live_issueAll_new os hi] at ho'
      exact .inr ⟨hnotIssued i, hos o' (List.mem_of_getElem? ho')⟩
    · rw [live_issueAll_old os fun i hi heq => hnew ⟨i, hi, heq⟩] at ho'
      exact .inl ⟨o', ho', .same o'⟩
  · intro h hh _
    apply live_issueAll_old
    rintro i - rfl
    exact hnotIssued i hh

theorem allocate_touches {o : LiveObject} (ho : o.Placed) : Touches h? e (e.allocate o).2 := by
  show Touches h? e (e.issueAll [o])
  exact issueAll_touches (by simpa using ho)

section Families

variable (e : Engine) (h : Handle)

theorem onPackage_touches (absent : α) (f : PackageDescription → α) :
    Touches h? e (e.onPackage h absent f).2 := by
  unfold onPackage
  split
  · split <;> exact .of_live rfl rfl
  · exact .of_live rfl rfl

theorem onContainer_touches (absent : α) {f : String → Engine → α × Engine}
    (hf : ∀ archive, Touches h? e (f archive e).2) : Touches h? e (e.onContainer h absent f).2 := by
  unfold onContainer
  split
  · exact hf _
  · exact .of_live rfl rfl

/-- An operation on a cursor touches the stream it is made on. -/
theorem onCursor_touches (absent : α) {f : Cursor → α × Cursor}
    (hf : ∀ c : Cursor, c.Moves (f c).2) :
    Touches (some h) e (e.onCursor h absent f).2 := by
  unfold onCursor
  split
  · next c hc =>
    refine ⟨⟨Nat.le_refl _, ?_⟩, ?_⟩
    · intro x o' ho'
      have hx : (e.live.insert h (.stream (f c).2))[x]? = some o' := ho'
      rw [Std.ExtTreeMap.getElem?_insert] at hx
      split at hx
      · next heq =>
        obtain rfl : h = x := Std.LawfulEqCmp.eq_of_compare heq
        obtain rfl := Option.some.inj hx
        exact .inl ⟨_, hc, .moved (hf c)⟩
      · exact .inl ⟨o', hx, .same o'⟩
    · intro x _ hx
      show (e.live.insert h (.stream (f c).2))[x]? = _
      rw [Std.ExtTreeMap.getElem?_insert, if_neg]
      intro heq
      exact hx (congrArg some (Std.LawfulEqCmp.eq_of_compare heq))
  · exact .of_live rfl rfl

/-- A handle taken back touches the object behind it. -/
theorem takeBack_touches : Touches (some h) e (e.takeBack h).2 := by
  cases ho : e.live[h]? with
  | none =>
    unfold takeBack
    rw [ho]
    exact .of_live rfl rfl
  | some o =>
    obtain ⟨hlive, hissued, -⟩ := takeBack_live ho
    refine ⟨⟨Nat.le_of_eq hissued.symm, ?_⟩, ?_⟩
    · intro x o' ho'
      rw [hlive, Std.ExtTreeMap.getElem?_erase] at ho'
      split at ho'
      · cases ho'
      · exact .inl ⟨o', ho', .same o'⟩
    · intro x _ hx
      rw [hlive, Std.ExtTreeMap.getElem?_erase, if_neg]
      intro heq
      exact hx (congrArg some (Std.LawfulEqCmp.eq_of_compare heq))

/-- A new stream touches nothing, whether there is such a resource or not. -/
theorem resourceStream_touches (path : String) (raw ranged : Bool) :
    Touches h? e (e.resourceStream h path raw ranged).2 := by
  have hfound : Touches h? e (e.onPackage h none fun d => d.resources[path]?).2 :=
    e.onPackage_touches h none _
  unfold resourceStream
  generalize e.onPackage h none (fun d => d.resources[path]?) = found at hfound ⊢
  obtain ⟨_ | r, e'⟩ := found
  · exact hfound
  · have hnew : Touches h? e' (e'.allocate _).2 :=
      allocate_touches (.start r.contents (raw || !r.filtered) ranged)
    refine ⟨hfound.toKeeps.trans hnew.toKeeps, ?_⟩
    intro x hx hne
    rw [← hfound.apart x hx hne]
    exact hnew.apart x (hx.mono hfound.issued) hne

theorem openArchive_touches (path : String) : Touches h? e (e.openArchive path).2 := by
  unfold openArchive
  dsimp only
  split
  · exact .of_record (allocate_touches (.container path))
  · exact .of_live rfl rfl

theorem packages_touches : Touches h? e (e.packages h).2 := by
  refine .of_record (onContainer_touches (e.record (.packages h)) h [] fun archive => ?_)
  dsimp only
  rw [allocatePackages_eq]
  apply issueAll_touches
  intro o ho
  obtain ⟨i, -, rfl⟩ := List.mem_map.mp ho
  exact .package h archive i

theorem rawContainerStream_touches (path : String) :
    Touches h? e (e.rawContainerStream h path).2 := by
  refine .of_record (onContainer_touches (e.record (.rawContainerStream h path)) h none ?_)
  intro archive
  dsimp only
  split
  · exact allocate_touches (.start _ true false)
  · exact .of_live rfl rfl

end Families

/-- **A request touches the object it names**, and no other that was issued before. -/
theorem perform_touches (e : Engine) (r : Request) : Touches r.call.handle? e (e.perform r).2 := by
  cases r with
  | openArchive path => exact e.openArchive_touches path
  | openPlain path => exact e.openArchive_touches path
  | packages h => exact e.packages_touches h
  | rawContainerStream h path => exact e.rawContainerStream_touches h path
  | openStream h path ranged => exact .of_record (resourceStream_touches _ h path false ranged)
  | openRawStream h path => exact .of_record (resourceStream_touches _ h path true false)
  | containerVersion h =>
    exact .of_record (onContainer_touches _ h none fun _ => .of_live rfl rfl)
  | releaseHandle h | closeStream h => exact .of_record (takeBack_touches _ h)
  -- the questions to a package
  | metadata | authorList | subjects | spineItems | manifestItems | mediaOverlay | property
  | hasProperty | navigation | probeSize =>
    exact .of_record (.answer (onPackage_touches (e.record _) _ _ _) _)
  -- the operations of a cursor
  | readBytes h n =>
    exact .of_record (onCursor_touches _ h _ fun c => c.take_moves n.toNat)
  | readAll h cap =>
    exact .of_record (onCursor_touches _ h _ fun c => c.take_moves cap.toNat)
  | readRange h offset n =>
    exact .of_record (onCursor_touches _ h _ fun c => c.readRange_moves offset.toNat n.toNat)
  | skip h n => exact .of_record (onCursor_touches _ h _ fun c => c.skip_moves n.toNat)
  | mark h => exact .of_record (onCursor_touches _ h _ Cursor.setMark_moves)
  | reset h toMark => exact .of_record (onCursor_touches _ h _ fun c => c.reset_moves toMark)
  | available h =>
    exact .of_record
      (onCursor_touches (f := fun c => (UInt64.ofNat c.remaining, c)) _ h _ Cursor.Moves.refl)

/-! ## §4. Checked answers. -/

/-- An operation on the cursor of a live stream, which may fail a check. -/
def onCursor? (e : Engine) (h : Handle) (absent : α) (f : Cursor → Option (α × Cursor)) :
    Option (α × Engine) :=
  match e.live[h]? with
  | some (.stream c) =>
    (f c).map fun (a, c) => (a, { e with live := e.live.insert h (.stream c) })
  | _ => some (absent, e.dangling)

/-- A request run with every range of bytes checked before it is cut out, the one
step of a request that could fail. The requests that cut none out go as they are. -/
def perform? (e : Engine) (r : Request) : Option (Reply × Engine) :=
  match r with
  | .readBytes h length =>
    ((e.record r.call).onCursor? h .empty fun c => c.take? length.toNat).map (·.map .bytes id)
  | .readAll h cap =>
    ((e.record r.call).onCursor? h .empty fun c => c.take? cap.toNat).map (·.map .bytes id)
  | .readRange h offset length =>
    ((e.record r.call).onCursor? h (.error (.invalidHandle h)) fun c =>
      c.readRange? offset.toNat length.toNat).map (·.map .range id)
  | r => some (e.perform r)

/-- A use, checked. -/
def use? (e : Engine) : EngineUse → Option Engine
  | .register path a => some (e.register path a)
  | .ask r => (e.perform? r).map Prod.snd

/-- Some uses, checked; they end where a check fails. -/
def afterUses? (e : Engine) (us : List EngineUse) : Option Engine := us.foldlM use? e

/-- The position and the mark of every live stream are within its bytes. -/
def AllPlaced (e : Engine) : Prop :=
  ∀ (h : Handle) (c : Cursor), e.live[h]? = some (.stream c) → c.Within

theorem onCursor?_eq {h : Handle} {absent : α} {f? : Cursor → Option (α × Cursor)}
    {f : Cursor → α × Cursor}
    (hf : ∀ c, e.live[h]? = some (.stream c) → f? c = some (f c)) :
    e.onCursor? h absent f? = some (e.onCursor h absent f) := by
  unfold onCursor? onCursor
  cases ho : e.live[h]? with
  | none => rfl
  | some o =>
    cases o with
    | stream c =>
      dsimp only
      rw [hf c ho]
      rfl
    | container | package => rfl

/-- **While the streams are within their bytes no check fails.** -/
theorem perform?_eq (he : e.AllPlaced) (r : Request) : e.perform? r = some (e.perform r) := by
  -- the streams are the same once the call has been recorded
  have htake : ∀ (h : Handle) (n : Nat) (c : Cursor),
      (e.record r.call).live[h]? = some (.stream c) → c.take? n = some (c.take n) :=
    fun h n c hc => Cursor.take?_eq (he h c hc).1 n
  cases r with
  | readBytes h n =>
    unfold perform?
    dsimp only
    rw [onCursor?_eq (htake h n.toNat)]
    rfl
  | readAll h cap =>
    unfold perform?
    dsimp only
    rw [onCursor?_eq (htake h cap.toNat)]
    rfl
  | readRange h offset n =>
    unfold perform?
    dsimp only
    rw [onCursor?_eq fun c _ => c.readRange?_eq offset.toNat n.toNat]
    rfl
  | _ => rfl

/-! ## §5. Any number of uses. -/

theorem allPlaced_empty : empty.AllPlaced := by
  intro h c hc
  simp [empty] at hc

theorem Keeps.allPlaced (h : Keeps e e') (he : e.AllPlaced) : e'.AllPlaced := by
  intro x c' hc'
  rcases h.origin x _ hc' with ⟨o, ho, hbecomes⟩ | ⟨-, hplaced⟩
  · have hplaced : o.Placed := by
      rintro c rfl
      exact he x c ho
    exact hplaced.becomes hbecomes c' rfl
  · exact hplaced c' rfl

/-- A stream that is still live is over the same bytes. -/
theorem Keeps.stream (h : Keeps e e') {x : Handle} {c : Cursor} {o' : LiveObject}
    (hissued : e.Issued x) (hc : e.live[x]? = some (.stream c)) (ho' : e'.live[x]? = some o') :
    ∃ c', o' = .stream c' ∧ c.Moves c' := by
  rcases h.origin x o' ho' with ⟨o, ho, hbecomes⟩ | ⟨hnew, -⟩
  · rw [hc] at ho
    obtain rfl := Option.some.inj ho
    exact hbecomes.stream
  · exact absurd hissued hnew

end Engine

/-- The handle that a use is about; registering an archive is about none. -/
def EngineUse.handle? : EngineUse → Option Handle
  | .register _ _ => none
  | .ask r => r.call.handle?

namespace Engine

variable {e : Engine}

theorem use_touches (e : Engine) (u : EngineUse) : Touches u.handle? e (e.use u) := by
  cases u with
  | register path archive => exact .of_live rfl rfl
  | ask r => exact e.perform_touches r

theorem use?_eq (he : e.AllPlaced) (u : EngineUse) : e.use? u = some (e.use u) := by
  cases u with
  | register path archive => rfl
  | ask r =>
    show (e.perform? r).map Prod.snd = _
    rw [perform?_eq he]
    rfl

theorem afterUses_keeps (us : List EngineUse) (e : Engine) : Keeps e (e.afterUses us) := by
  induction us generalizing e with
  | nil => exact .refl e
  | cons u us ih => exact (e.use_touches u).toKeeps.trans (ih (e.use u))

/-- **No check fails in any number of uses.** -/
theorem afterUses?_eq (us : List EngineUse) (he : e.AllPlaced) :
    e.afterUses? us = some (e.afterUses us) := by
  induction us generalizing e with
  | nil => rfl
  | cons u us ih =>
    -- the first use goes through, and the streams stay within their bytes
    have hnext : (e.use u).AllPlaced := (e.use_touches u).toKeeps.allPlaced he
    rw [afterUses?, List.foldlM_cons, use?_eq he]
    exact ih hnext

/-- A live object stands under a handle that was issued. -/
theorem InOrder.issued_of_live (he : e.InOrder) {h : Handle} {o : LiveObject}
    (ho : e.live[h]? = some o) : e.Issued h := by
  refine (he.known h).mpr (.inl ?_)
  rw [Std.ExtTreeMap.mem_iff_isSome_getElem?, ho]
  rfl

/-- **Engine cursors stay inside their data.** After any uses of a fresh engine, with
archives registered and registered anew among them: no range that was cut out
left its bytes; the position and the mark of every live stream are at most the
number of its bytes; a use leaves every stream as it is but the one it names;
and whatever comes later, a stream that is still live has the bytes and the
mode it was opened with. -/
theorem cursors_stay_inside (us : List EngineUse) :
    empty.afterUses? us = some (empty.afterUses us) ∧
      (∀ (h : Handle) (c : Cursor), (empty.afterUses us).live[h]? = some (.stream c) →
        c.position ≤ c.contents.size ∧ c.mark ≤ c.contents.size) ∧
      (∀ (u : EngineUse) (h : Handle) (c : Cursor),
        (empty.afterUses us).live[h]? = some (.stream c) → u.handle? ≠ some h →
        ((empty.afterUses us).use u).live[h]? = some (.stream c)) ∧
      ∀ (vs : List EngineUse) (h : Handle) (c : Cursor) (o : LiveObject),
        (empty.afterUses us).live[h]? = some (.stream c) →
        (empty.afterUses (us ++ vs)).live[h]? = some o →
        ∃ c', o = .stream c' ∧ c'.contents = c.contents ∧ c'.seekable = c.seekable ∧
          c'.ranged = c.ranged := by
  have horder : (empty.afterUses us).InOrder := afterUses_inOrder us inOrder_empty
  have hplaced : (empty.afterUses us).AllPlaced := (afterUses_keeps us empty).allPlaced
    allPlaced_empty
  refine ⟨afterUses?_eq us allPlaced_empty, hplaced, ?apart, ?later⟩
  case apart =>
    intro u h c hc hne
    rw [((empty.afterUses us).use_touches u).apart h (horder.issued_of_live hc) hne]
    exact hc
  case later =>
    intro vs h c o hc ho
    have hrun : empty.afterUses (us ++ vs) = (empty.afterUses us).afterUses vs := List.foldl_append
    rw [hrun] at ho
    obtain ⟨c', rfl, hmoves⟩ :=
      (afterUses_keeps vs (empty.afterUses us)).stream (horder.issued_of_live hc) hc ho
    exact ⟨c', rfl, hmoves.bytes⟩

/-- A client that opens a stream of three bytes and skips as far as a count goes. -/
def hastyUses : List EngineUse :=
  [.register "book" (Archive.empty.withFile "a" ⟨⟨#[1, 2, 3]⟩, by decide⟩),
    .ask (.openPlain "book"), .ask (.rawContainerStream ⟨0x1001⟩ "a"),
    .ask (.skip ⟨0x1002⟩ 0xFFFFFFFFFFFFFFFF), .ask (.mark ⟨0x1002⟩)]

/-- It puts another archive in the place of the first, gives the container back and
reads on. -/
def replacingUses : List EngineUse :=
  [.register "book" .empty, .ask (.releaseHandle ⟨0x1001⟩), .ask (.readAll ⟨0x1002⟩ 8)]

theorem cursors_stay_inside_sample :
    ∃ c c', (empty.afterUses hastyUses).live[(⟨0x1002⟩ : Handle)]? = some (.stream c) ∧
      c.position ≤ c.contents.size ∧ c.mark ≤ c.contents.size ∧
      (empty.afterUses (hastyUses ++ replacingUses)).live[(⟨0x1002⟩ : Handle)]? =
        some (.stream c') ∧
      c'.contents = c.contents := by
  have hbefore : ((empty.afterUses hastyUses).live[(⟨0x1002⟩ : Handle)]?).map LiveObject.isStream
      = some true := by decide +kernel
  have hafter : ((empty.afterUses (hastyUses ++ replacingUses)).live[(⟨0x1002⟩ : Handle)]?).map
      LiveObject.isStream = some true := by decide +kernel
  obtain ⟨o, ho, hstream⟩ := Option.map_eq_some_iff.mp hbefore
  obtain ⟨o', ho', -⟩ := Option.map_eq_some_iff.mp hafter
  cases o with
  | container | package => cases hstream
  | stream c =>
    obtain ⟨-, hinside, -, hlater⟩ := cursors_stay_inside hastyUses
    obtain ⟨hposition, hmark⟩ := hinside ⟨0x1002⟩ c ho
    obtain ⟨c', rfl, hcontents, -⟩ := hlater replacingUses ⟨0x1002⟩ c o' ho ho'
    exact ⟨c, c', ho, hposition, hmark, ho', hcontents⟩

end Engine

end EpubAccess
