/-
  EpubAccess.Proofs.Fetches.Lives
  ────────────────────────────────
  The life of a fetch in a host, from its making to its drop.

  Between the uses of a fetch a host may do whatever it likes, as long as it
  leaves the slot of the fetch alone (`Command.keeps`).  `Host.lifeMoves` are
  the moves of the streams of the fetch over such a life.  One command keeps
  them walking (`Host.run_passes`), hence a whole life does
  (`Host.after_told`), and its drop closes what is left
  (`Host.fetch_streams_accounted`).
-/
import EpubAccess.Proofs.Fetches.Moves
import EpubAccess.Proofs.Lifetimes.Commands

namespace EpubAccess

open Stateful

/-! ## §1. Lives. -/

/-- Does the command use the fetch in the slot, or leave the slot alone? -/
def Command.keeps (slot : String) : Command → Bool
  | .fetch _ _ => true
  | .handOver _ _ dest => dest != slot
  | c => !c.writes.contains slot

/-- The stream that a move opens. -/
def StreamMove.opened? : StreamMove → Option Handle
  | opened h => some h
  | _ => none

/-- A stream is opened as often as it is among those opened. -/
theorem StreamMove.count_opened (ms : List StreamMove) (h : Handle) :
    ms.count (.opened h) = (ms.filterMap opened?).count h := by
  induction ms with
  | nil => rfl
  | cons m ms ih =>
    cases m with
    | opened x => simp [opened?, List.count_cons, ih]
    | _ => simp [opened?, List.filterMap_cons, ih]

theorem Gateway.opened_movesTo (g g' : Gateway) (handed : Option Handle) :
    (g.movesTo g' ++ handed.toList.map StreamMove.handedOver).filterMap StreamMove.opened?
      = g.issuedTo g' := by
  have hclosed : ∀ hs : List Handle, (hs.map StreamMove.closed).filterMap StreamMove.opened? = [] :=
    fun hs => List.filterMap_eq_nil_iff.mpr fun m hm => by
      obtain ⟨x, -, rfl⟩ := List.mem_map.mp hm
      rfl
  have hhanded : (handed.toList.map StreamMove.handedOver).filterMap StreamMove.opened? = [] :=
    List.filterMap_eq_nil_iff.mpr fun m hm => by
      obtain ⟨x, -, rfl⟩ := List.mem_map.mp hm
      rfl
  unfold movesTo
  rw [List.filterMap_append, List.filterMap_append, hclosed, hhanded, List.filterMap_map,
    List.append_nil, List.append_nil]
  exact List.filterMap_some

namespace Host

/-- Handing over the stream of the fetch in a slot: the stream, and the gateway
afterwards. -/
def handOverWork (slot : String) (ranged : Bool) (w : Host) : Option Handle × Gateway :=
  match w.slots[slot]? with
  | some (.fetch f) =>
    match w.packages.get? f.package with
    | some p =>
      let r := f.handOver p (w.isAttached p) ranged w.gateway
      (r.1.1.map fun s => s.handle.handle, r.2)
    | none => (none, w.gateway)
  | _ => (none, w.gateway)

/-- The work of the fetch in a slot for a command: the stream that it hands
over, and the gateway afterwards.  What a slot held that takes a stream goes
away later, and is no work of the fetch. -/
def fetchWork (slot : String) (c : Command) (w : Host) : Option Handle × Gateway :=
  match c with
  | .fetch s _ | .drop s => if s = slot then (none, (run c w).2.gateway) else (none, w.gateway)
  | .handOver s ranged _ => if s = slot then w.handOverWork slot ranged else (none, w.gateway)
  | _ => (none, w.gateway)

/-- The moves of the streams of a slot's fetch in a command. -/
def fetchMoves (slot : String) (c : Command) (w : Host) : List StreamMove :=
  w.gateway.movesTo (w.fetchWork slot c).2 ++ (w.fetchWork slot c).1.toList.map .handedOver

/-- The openings that a slot's fetch reports in a command. -/
def fetchOpenings (slot : String) (c : Command) (w : Host) : List (Handle × UInt64) :=
  w.gateway.openingsTo (w.fetchWork slot c).2

/-- The moves of the streams of a slot's fetch over a run. -/
def lifeMoves (slot : String) : List Command → Host → List StreamMove :=
  collect fun c w => w.fetchMoves slot c

/-- The openings that a slot's fetch reports over a run. -/
def lifeOpenings (slot : String) : List Command → Host → List (Handle × UInt64) :=
  collect fun c w => w.fetchOpenings slot c

/-! ## §2. One command. -/

variable {w w' : Host} {slot : String} {f : Fetch}

/-- A slot that a command does not write is left alone. -/
theorem Puts.writes {c : Command} {m : String} {o : Option Holding} (h : Puts w c m o) :
    m ∈ c.writes := by
  cases h with
  | plain hm _ => cases c <;> simp_all [Command.makes, Command.writes]
  | _ => simp [Command.writes]

theorem run_slot_same (hw : Consistent w) {c : Command} {m : String} (hm : m ∉ c.writes) :
    (run c w).2.slots[m]? = w.slots[m]? :=
  ((run_later c hw).slots m).resolve_right fun h => hm h.writes

/-- What one command does to the fetch in a slot: it walks from one fetch to
the next. -/
structure FetchPasses (slot : String) (c : Command) (w : Host) (f f' : Fetch) : Prop where
  stored : (run c w).2.slots[slot]? = some (.fetch f')
  went : Fetch.Went f w.gateway (w.fetchWork slot c).1 f' (w.fetchWork slot c).2
  issued : (w.fetchWork slot c).2.engine.issued ≤ (run c w).2.gateway.engine.issued

theorem Consistent.fetch_package (hw : Consistent w) (hf : w.slots[slot]? = some (.fetch f)) :
    ∃ p, w.packages.get? f.package = some p :=
  hw.ownedPackages slot _ hf f.package (by simp [Holding.packages])

/-- An operation of the fetch in a slot is the work of the fetch, and its later
state is noted. -/
theorem run_fetch_apply (op : FetchOp) {p : Package} (hf : w.slots[slot]? = some (.fetch f))
    (hp : w.packages.get? f.package = some p) :
    run (.fetch slot op) w
      = (.fetchReply (op.run f p (w.isAttached p) w.gateway).1.1
            (op.run f p (w.isAttached p) w.gateway).1.2,
          { w with
            gateway := (op.run f p (w.isAttached p) w.gateway).2
            slots := w.slots.insert slot (.fetch (op.run f p (w.isAttached p) w.gateway).1.2) }) :=
  withFetch_some hf hp

/-- A command that is no use of the fetch and leaves its slot alone. -/
theorem FetchPasses.same (hw : Consistent w) (hf : w.slots[slot]? = some (.fetch f)) (hh : f.Holds)
    {c : Command} (hc : slot ∉ c.writes) (hwork : w.fetchWork slot c = (none, w.gateway)) :
    FetchPasses slot c w f f := by
  refine ⟨(run_slot_same hw hc).trans hf, ?_, ?_⟩
  · rw [hwork]
    exact .quiet hh (.refl _)
  · rw [hwork]
    exact (run_later c hw).issued

/-- The stream of a fetch handed over into another slot. -/
theorem run_handOver_apply (hw : Consistent w) (ranged : Bool) {dest : String} {p : Package}
    (hf : w.slots[slot]? = some (.fetch f)) (hp : w.packages.get? f.package = some p)
    (hdest : dest ≠ slot) :
    let r := f.handOver p (w.isAttached p) ranged w.gateway
    (run (.handOver slot ranged dest) w).1 = .handedOver r.1.1 r.1.2
      ∧ (run (.handOver slot ranged dest) w).2.slots[slot]? = some (.fetch r.1.2)
      ∧ r.2.engine.issued ≤ (run (.handOver slot ranged dest) w).2.gateway.engine.issued
      ∧ w.fetchWork slot (.handOver slot ranged dest)
          = (r.1.1.map fun s => s.handle.handle, r.2) := by
  intro r
  have hwork : w.fetchWork slot (.handOver slot ranged dest)
      = (r.1.1.map fun s => s.handle.handle, r.2) := by
    simp only [fetchWork, handOverWork, if_pos, hf, hp]
    rfl
  have hrun : run (.handOver slot ranged dest) w = (.handedOver r.1.1 r.1.2,
      (storeStream dest r.1.1 { w with
        gateway := r.2, slots := w.slots.insert slot (.fetch r.1.2) }).2) := withFetch_some hf hp
  have hkept := f.handOver_forward p (w.isAttached p) ranged w.gateway
  have hgate : Later .any w { w with gateway := r.2 } := .same hw hkept.1.issued_le
  have hupdate : Later .any _
      { w with gateway := r.2, slots := w.slots.insert slot (.fetch r.1.2) } :=
    updateFetch_later slot hgate.after ⟨p, by
      rw [show r.1.2.package = f.package from hkept.2]
      exact hp⟩ trivial
  have hself : (w.slots.insert slot (.fetch r.1.2))[slot]? = some (.fetch r.1.2) := by
    simp
  rw [hrun]
  refine ⟨rfl, ?_, (storeStream_later (S := .any) hupdate.after fun _ => trivial).issued, hwork⟩
  cases hs : r.1.1 with
  | none => exact hself
  | some s =>
    refine (store_slots dest (.stream s) hupdate.after (by simp [Holding.containers])
      (by simp [Holding.packages]) slot).trans ?_
    rw [if_neg (Ne.symm hdest)]
    exact hself

/-- **One command passes a fetch on**: it uses the fetch or leaves it alone. -/
theorem run_passes (hw : Consistent w) (hf : w.slots[slot]? = some (.fetch f)) (hh : f.Holds)
    {c : Command} (hc : c.keeps slot = true) : ∃ f', FetchPasses slot c w f f' := by
  obtain ⟨p, hp⟩ := hw.fetch_package hf
  have hsame : slot ∉ c.writes → w.fetchWork slot c = (none, w.gateway) →
      ∃ f', FetchPasses slot c w f f' := fun hc hwork => ⟨f, .same hw hf hh hc hwork⟩
  -- the uses of the fetch first; all other commands leave it as it is
  cases c with
  | fetch s op =>
    by_cases hs : s = slot
    · subst hs
      have hrun := run_fetch_apply op hf hp
      have hwork : w.fetchWork s (.fetch s op)
          = (none, (run (.fetch s op) w).2.gateway) := if_pos rfl
      refine ⟨(op.run f p (w.isAttached p) w.gateway).1.2, ?_, ?_, ?_⟩
      · rw [hrun]
        show (w.slots.insert s _)[s]? = _
        simp
      · rw [hwork, hrun]
        exact (FetchOp.run_went hh p _ _ op).1
      · exact Nat.le_of_eq (by rw [hwork])
    · exact hsame (by simpa [Command.writes] using Ne.symm hs) (if_neg hs)
  | handOver s ranged dest =>
    have hdest : dest ≠ slot := by simpa [Command.keeps] using hc
    by_cases hs : s = slot
    · subst hs
      obtain ⟨-, hstored, hissued, hwork⟩ := run_handOver_apply hw ranged hf hp hdest
      refine ⟨_, hstored, ?_, ?_⟩
      · rw [hwork]
        exact (Fetch.handOver_went hh p _ _ ranged).1
      · rw [hwork]
        exact hissued
    · exact hsame (by simp [Command.writes, Ne.symm hs, Ne.symm hdest]) (if_neg hs)
  | drop s =>
    have hs : slot ∉ (Command.drop s).writes := by simpa [Command.keeps] using hc
    exact hsame hs (if_neg fun h => hs (by simp [Command.writes, h]))
  | _ => exact hsame (by simpa [Command.keeps] using hc) rfl

/-- Dropping a package closes no stream. -/
theorem dropPackage_shows (hw : Consistent w) (k : PackageId) :
    Gateway.Shows w.gateway (dropPackage k w).2.gateway 0 [] [] := by
  unfold dropPackage
  rw [get_bind_apply]
  split
  · exact .refl _
  cases hp : w.packages.get? k with
  | none => exact .refl _
  | some p =>
    simp only [bind_apply, set_apply, through_apply]
    show Gateway.Shows w.gateway (p.handle.drop w.gateway).2 0 [] []
    unfold OwnedHandle.drop OwnedHandle.giveBack
    rw [hw.kinds k p hp]
    split
    · exact .refl _
    · rw [bind_apply]
      have hwarn :=
        (Gateway.Quiet.emit (e := .releasedOnDrop .package p.handle.handle) rfl w.gateway).1
      have hrelease : ∀ g, Gateway.Shows g (Gateway.releaseHandle p.handle.handle g).2 0 [] [] :=
        fun g => Gateway.takeBack_shows (.releaseHandle p.handle.handle) p.handle.handle g
      exact hwarn.trans (hrelease _)

/-- A fetch that is dropped is closed, and then its package loses an owner. -/
theorem run_drop_apply (hf : w.slots[slot]? = some (.fetch f)) :
    (run (.drop slot) w).2 = (dropPackage f.package
      { w with slots := w.slots.erase slot, gateway := (f.close w.gateway).2 }).2 := by
  show (clear slot w).2 = _
  unfold clear
  rw [get_bind_apply, hf]
  rfl

/-- **A fetch that is dropped** closes the stream that it holds. -/
theorem drop_went (hw : Consistent w) (hf : w.slots[slot]? = some (.fetch f)) (hh : f.Holds) :
    ∃ f', f'.stream = none
      ∧ Fetch.Went f w.gateway (w.fetchWork slot (.drop slot)).1 f'
        (w.fetchWork slot (.drop slot)).2 := by
  obtain ⟨hwent, hnone⟩ := Fetch.close_went hh w.gateway
  have hwork : w.fetchWork slot (.drop slot) = (none, (run (.drop slot) w).2.gateway) := if_pos rfl
  have herase : Later .any w { w with slots := w.slots.erase slot } := .erase hw trivial
  have hgate : Later .any _
      { w with slots := w.slots.erase slot, gateway := (f.close w.gateway).2 } :=
    .same herase.after (f.close_forward w.gateway).1.issued_le
  refine ⟨(f.close w.gateway).1, hnone, ?_⟩
  rw [hwork, run_drop_apply hf]
  exact hwent.followed (dropPackage_shows hgate.after f.package)

/-! ## §3. Whole lives. -/

/-- What is told of a fetch so far: its moves walk, no stream was opened twice,
and the length is that of the stream opened last. -/
structure Told (f : Fetch) (issued : Nat) (ms : List StreamMove)
    (openings : List (Handle × UInt64)) :
    Prop where
  holds : f.Holds
  walk : StreamMove.Walk none ms f.heldHandle?
  once : (ms.filterMap StreamMove.opened?).Nodup
  past : ∀ h ∈ ms.filterMap StreamMove.opened?, ∃ i, i < issued ∧ h = Handle.issuedAfter i
  length : f.contentLength = openings.getLast?.map Prod.snd
  reported : openings.map Prod.fst = ms.filterMap StreamMove.opened?

namespace Told

variable {ms : List StreamMove} {openings : List (Handle × UInt64)} {n : Nat}

theorem start (k : PackageId) (path : String) (raw : Bool) (n : Nat) :
    Told (.start k path raw) n [] [] :=
  ⟨fun _ h => absurd h (by simp [Fetch.start]), .nil none, List.nodup_nil, by simp, rfl, rfl⟩

/-- What is told goes on with every use. -/
theorem went {f' : Fetch} {g g' : Gateway} {handed : Option Handle}
    (h : Told f g.engine.issued ms openings) (hwent : Fetch.Went f g handed f' g')
    (hg : g.engine.issued ≤ n) (hg' : g'.engine.issued ≤ n) :
    Told f' n (ms ++ (g.movesTo g' ++ handed.toList.map .handedOver))
      (openings ++ g.openingsTo g') := by
  have hopened := g.opened_movesTo g' handed
  have hnew : ∀ x ∈ g.issuedTo g', ∃ i, g.engine.issued ≤ i ∧ i < g'.engine.issued
      ∧ x = Handle.issuedAfter i := by
    intro x hx
    obtain ⟨i, hi, rfl⟩ := List.mem_map.mp hx
    obtain ⟨hle, hlt⟩ := List.mem_range'_1.mp hi
    exact ⟨i, hle, by omega, rfl⟩
  refine ⟨hwent.holds, h.walk.append hwent.moves, ?_, fun x hx => ?_, ?_, ?_⟩
  · -- what the engine issues is new
    rw [List.filterMap_append, hopened, List.nodup_append]
    refine ⟨h.once, List.Nodup.map (fun _ _ => Handle.issuedAfter_injective) List.nodup_range', ?_⟩
    rintro x hx y hy rfl
    obtain ⟨i, hi, rfl⟩ := h.past x hx
    obtain ⟨j, hj, -, heq⟩ := hnew _ hy
    have := Handle.issuedAfter_injective heq
    omega
  · rw [List.filterMap_append, hopened, List.mem_append] at hx
    rcases hx with hx | hx
    · obtain ⟨i, hi, rfl⟩ := h.past x hx
      exact ⟨i, Nat.lt_of_lt_of_le hi hg, rfl⟩
    · obtain ⟨i, -, hi, rfl⟩ := hnew x hx
      exact ⟨i, Nat.lt_of_lt_of_le hi hg', rfl⟩
  · rw [hwent.length, h.length, List.getLast?_append, Option.map_or]
  · rw [List.map_append, List.filterMap_append, hopened, h.reported, hwent.reported]

/-- What is told of a fetch is accounted for. -/
theorem accounted (h : Told f n ms openings) : StreamMove.Accounted ms f.heldHandle? :=
  h.walk.accounted fun x => by
    rw [StreamMove.count_opened]
    exact List.nodup_iff_count_le_one.mp h.once x

end Told

/-- **A whole life**, told command after command. -/
theorem after_told {life : List Command} {ms : List StreamMove} {openings : List (Handle × UInt64)}
    (hw : Consistent w) (hf : w.slots[slot]? = some (.fetch f))
    (htold : Told f w.gateway.engine.issued ms openings)
    (hlife : ∀ c ∈ life, c.keeps slot = true) :
    ∃ f', (after life w).slots[slot]? = some (.fetch f')
      ∧ Told f' (after life w).gateway.engine.issued (ms ++ lifeMoves slot life w)
          (openings ++ lifeOpenings slot life w) := by
  -- the induction is on the commands; what is told so far grows by what each one shows
  induction life generalizing w f ms openings with
  | nil =>
    refine ⟨f, hf, ?_⟩
    show Told f w.gateway.engine.issued (ms ++ []) (openings ++ [])
    rw [List.append_nil, List.append_nil]
    exact htold
  | cons c life ih =>
    have hlater := run_later c hw
    obtain ⟨f', hpasses⟩ := run_passes hw hf htold.holds (hlife c (List.mem_cons_self ..))
    obtain ⟨f'', hstored, hrest⟩ := ih hlater.after hpasses.stored
      (htold.went hpasses.went hlater.issued hpasses.issued)
      fun d hd => hlife d (List.mem_cons_of_mem _ hd)
    rw [List.append_assoc ms, List.append_assoc openings] at hrest
    exact ⟨f'', hstored, hrest⟩

/-- How a fetch in a slot answers its next use, whatever is refused. -/
structure FetchAnswers (w : Host) (slot : String) (f : Fetch) : Prop where
  /-- Operations leave a stream or none, as they are to. -/
  op : ∀ op : FetchOp, ∃ r f', (run (.fetch slot op) w).1 = .fetchReply r f'
    ∧ (run (.fetch slot op) w).2.slots[slot]? = some (.fetch f') ∧ op.Leaves f r f'
  /-- Handing over leaves none. -/
  handOver : ∀ (ranged : Bool) (dest : String), dest ≠ slot →
    ∃ s f', (run (.handOver slot ranged dest) w).1 = .handedOver s f'
      ∧ (run (.handOver slot ranged dest) w).2.slots[slot]? = some (.fetch f')
      ∧ f'.hasStream = false ∧ ∀ x ∈ s, f'.contentLength = some x.length
  /-- With a stream held, ensuring one leaves the gateway alone. -/
  ensureHeld : f.hasStream = true → ∀ ranged,
    (run (.fetch slot (.ensureStream ranged)) w).1 = .fetchReply .done f
      ∧ (run (.fetch slot (.ensureStream ranged)) w).2.gateway = w.gateway
  /-- The length of a stream that is held is noted. -/
  lengthHeld : ∀ s ∈ f.stream, f.contentLength = some s.length

theorem fetchAnswers (hw : Consistent w) (hf : w.slots[slot]? = some (.fetch f)) (hh : f.Holds) :
    FetchAnswers w slot f := by
  obtain ⟨p, hp⟩ := hw.fetch_package hf
  refine ⟨fun op => ?_, fun ranged dest hdest => ?_, fun hs ranged => ?_, fun s hs => (hh s hs).2⟩
  · obtain ⟨f', hpasses⟩ := run_passes hw hf hh (c := .fetch slot op) rfl
    have hrun := run_fetch_apply op hf hp
    refine ⟨_, _, congrArg Prod.fst hrun, ?_,
      (FetchOp.run_went hh p (w.isAttached p) w.gateway op).2⟩
    rw [hrun]
    show (w.slots.insert slot _)[slot]? = _
    simp
  · obtain ⟨hanswer, hstored, -, -⟩ := run_handOver_apply hw ranged hf hp hdest
    obtain ⟨-, hnone, hlength⟩ := Fetch.handOver_went hh p (w.isAttached p) w.gateway ranged
    refine ⟨_, _, hanswer, hstored, ?_, fun x hx => hlength x hx⟩
    rw [Fetch.hasStream, hnone]
    rfl
  · obtain ⟨-, -, hsame⟩ := Fetch.ensureStream_went hh p (w.isAttached p) w.gateway ranged
    rw [run_fetch_apply (.ensureStream ranged) hf hp, hsame hs]
    exact ⟨rfl, rfl⟩

/-- **The streams of a fetch are accounted for**, over its whole life.  Let a
host do whatever it does, also around the library and with whatever faults;
let it make a fetch, use it in any order, and do anything else in between that
leaves its slot alone.  At every moment at most one stream that the fetch
opened was neither closed nor handed over, and it is the one that is held;
every other one was closed once or handed over once, and after the drop every
single one was.  The length is that of the stream opened last, none before the
first.  And the next use answers as `FetchAnswers` says. -/
theorem fetch_streams_accounted (cs life : List Command) (source path slot : String) (raw : Bool)
    (k : PackageId) (hk : (after cs fresh).slots[source]? = some (.package k))
    (hlife : ∀ c ∈ life, c.keeps slot = true) :
    let made := (run (.fetchResource source path raw slot) (after cs fresh)).2
    let w := after life made
    ∃ f, w.slots[slot]? = some (.fetch f)
      ∧ StreamMove.Accounted (lifeMoves slot life made) f.heldHandle?
      ∧ StreamMove.Accounted (lifeMoves slot (life ++ [.drop slot]) made) none
      ∧ f.contentLength = (lifeOpenings slot life made).getLast?.map Prod.snd
      ∧ (lifeOpenings slot life made).map Prod.fst
          = (lifeMoves slot life made).filterMap StreamMove.opened?
      ∧ FetchAnswers w slot f := by
  intro made w
  have hw := consistent_after cs
  obtain ⟨p, hp⟩ := hw.ownedPackages source _ hk k (by simp [Holding.packages])
  have hthere : ∀ j ∈ (Holding.fetch (.start k path raw)).packages,
      ∃ p, (after cs fresh).packages.get? j = some p :=
    fun j hj => ⟨p, List.mem_singleton.mp hj ▸ hp⟩
  have hrun : made = (store slot (.fetch (.start k path raw)) (after cs fresh)).2 :=
    congrArg Prod.snd (withPackage_some hk hp)
  have hmade : made.slots[slot]? = some (.fetch (.start k path raw)) := by
    rw [hrun, store_slots slot _ hw (by simp [Holding.containers]) hthere, if_pos rfl]
  have hlater : Consistent made := (run_later (.fetchResource source path raw slot) hw).after
  obtain ⟨f, hf, htold⟩ := after_told hlater hmade (.start k path raw _) hlife
  rw [List.nil_append, List.nil_append] at htold
  have hend : Consistent w := (after_later life hlater).after
  refine ⟨f, hf, htold.accounted, ?_, htold.length, htold.reported,
    fetchAnswers hend hf htold.holds⟩
  -- the drop is the last use
  obtain ⟨f', hnone, hwent⟩ := drop_went hend hf htold.holds
  have hwork : w.fetchWork slot (.drop slot) = (none, (run (.drop slot) w).2.gateway) := if_pos rfl
  have hdropped := (htold.went hwent (run_later (.drop slot) hend).issued
    (Nat.le_of_eq (by rw [hwork]))).accounted
  have hmoves : lifeMoves slot (life ++ [.drop slot]) made
      = lifeMoves slot life made ++ fetchMoves slot (.drop slot) w := by
    rw [lifeMoves, collect_append]
    exact congrArg (_ ++ ·) (List.append_nil _)
  rw [hmoves, show none = f'.heldHandle? by rw [Fetch.heldHandle?, hnone]; rfl]
  exact hdropped

/-- A life in which a stream is held and then read off, one is handed over, and
after the close of the package none can be opened. -/
def sampleLife : List Command :=
  [.fetch "fetch" (.ensureStream false), .fetch "fetch" .readAll, .handOver "fetch" true "stream",
    .package "package" .close, .fetch "fetch" (.ensureStream true)]

theorem fetch_streams_accounted_sample :
    (after samplePreparation fresh).slots["package"]? = some (.package 0)
      ∧ (∀ c ∈ sampleLife, c.keeps "fetch" = true)
      ∧ (let made := (run (.fetchResource "package" "text" false "fetch")
           (after samplePreparation fresh)).2
         lifeMoves "fetch" sampleLife made
             = [.opened ⟨4099⟩, .closed ⟨4099⟩, .opened ⟨4100⟩, .handedOver ⟨4100⟩]
           ∧ StreamMove.Accounted
               (lifeMoves "fetch" (sampleLife ++ [.drop "fetch"]) made) none) := by
  have hk : (after samplePreparation fresh).slots["package"]? = some (.package 0) :=
    Holding.eq_package (by decide +kernel)
  have hlife : ∀ c ∈ sampleLife, c.keeps "fetch" = true := by decide
  obtain ⟨-, -, -, hdropped, -⟩ :=
    fetch_streams_accounted samplePreparation sampleLife "package" "text" "fetch" false 0 hk hlife
  exact ⟨hk, hlife, by decide +kernel, hdropped⟩

end Host

end EpubAccess
