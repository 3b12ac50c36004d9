/-
  EpubAccess.Proofs.Streams.Sources
  ────────────────────────────────
  New streams follow a plain cursor at the start.

  What an opening gives stands at the start of the bytes that were opened, so
  it follows the plain cursor over them (`Opened.follows`).  A fetch gives the
  stream that it holds, whatever bytes it was opened over and for whatever
  access, and otherwise opens one: `Fetch.source?` is the plain cursor in
  either case (`Fetch.ensureStream_follows`, `Fetch.handOver_follows`).
-/
import EpubAccess.Proofs.Ownership.Fetches
import EpubAccess.Proofs.Streams.Following

namespace EpubAccess

open Stateful

/-! ## §1. Streams at the start. -/

/-- An open stream at the start, with the length of what is behind it. -/
theorem ContentStream.AtStart.follows {g : Gateway} {s : ContentStream}
    (h : s.AtStart True g.engine) (hcalm : g.faults = .none) :
    ∃ c, g.engine.live[s.handle.handle]? = some (.stream c)
      ∧ s.Follows g (.ofCursor c s.maxReadAll) := by
  obtain ⟨c, hc, hp, hm, hlen⟩ := h.cursor
  have hbehind : (PlainCursor.ofCursor c s.maxReadAll).behind = c := by
    cases c
    simp only [PlainCursor.ofCursor, PlainCursor.start, PlainCursor.behind] at hp hm ⊢
    rw [hp, hm]
  have hsize : s.length.toNat = c.contents.size := by
    have hlt : c.contents.size < UInt64.size := Nat.lt_trans c.contents.size_lt (by decide)
    rw [hlen trivial, Cursor.remaining, hp, Nat.sub_zero, UInt64.toNat_ofNat_of_lt' hlt]
  refine ⟨c, hc, hcalm, ?_, by rw [hbehind]; exact hc, ?_, ?_, hsize, rfl,
    PlainCursor.start_within ..⟩
  · rw [h.handle]
    rfl
  · rw [h.position]
    rfl
  · rw [h.mark]
    rfl

/-- An opening that finds bytes gives a stream at their start. -/
theorem Opened.follows {ι : Type} {held : ι → Option OwnedHandle} {loose : List OwnedHandle}
    {found : Option Cursor} {cap : UInt64} {g g' : Gateway} {r : Option ContentStream} {c : Cursor}
    (h : Opened held loose found cap g r g') (hcalm : g.faults = .none) (hc : found = some c)
    (hstart : c.position = 0 ∧ c.mark = 0) :
    ∃ s, r = some s ∧ s.Follows g' (.ofCursor c cap) := by
  cases r with
  | none => exact absurd ((h.found hcalm rfl).symm.trans hc) (by simp)
  | some s =>
    have hat : s.AtStart True g'.engine := h.atStart (fun _ => .of_none hcalm) fun c' hc' => by
      rw [hc, Option.some.injEq] at hc'
      exact hc' ▸ hstart
    obtain ⟨c', hc', hl, -, -, -, hcap, -⟩ := h.start s rfl
    obtain ⟨c'', hl', hfollows⟩ := hat.follows (h.moved.calm hcalm)
    rw [hc, Option.some.injEq] at hc'
    rw [hl, Option.some.injEq, LiveObject.stream.injEq] at hl'
    rw [← hl', ← hc', hcap] at hfollows
    exact ⟨s, rfl, hfollows⟩

theorem Container.source?_start {c : Container} {e : Engine} {path : String} {x : Cursor}
    (h : c.source? e path = some x) : x.position = 0 ∧ x.mark = 0 := by
  unfold Container.source? at h
  split at h
  · exact absurd h (by simp)
  · obtain ⟨b, -, rfl⟩ := Option.map_eq_some_iff.mp h
    exact ⟨rfl, rfl⟩

/-! ## §2. Fetches. -/

namespace Fetch

/-- The plain cursor over what a fetch gives: over the bytes behind the stream
that it holds, or else over those that it opens. -/
def source? (f : Fetch) (p : Package) (attached : Bool) (e : Engine) (ranged : Bool) :
    Option PlainCursor :=
  match f.stream with
  | some s =>
    match e.live[s.handle.handle]? with
    | some (.stream c) => some (.ofCursor c s.maxReadAll)
    | _ => none
  | none => (p.source? attached e f.path f.raw ranged).map fun c => .ofCursor c p.maxReadAll

section Sources

variable {ι : Type} {held : ι → Option OwnedHandle} {loose : List OwnedHandle} {g : Gateway}
  {f : Fetch} {p : Package} {i : ι} {attached ranged : Bool}
  (l : Ledger g.engine held (f.handles ++ loose)) (hi : held i = some p.handle)
  (hk : p.handle.kind = .package) (hcalm : g.faults = .none) (hf : f.Ready True g.engine)

include l hi hk hcalm hf

/-- A fetch with a source gives a stream at its start. -/
theorem ensureStream_follows {r : PlainCursor}
    (hr : f.source? p attached g.engine ranged = some r) :
    ∃ s, (f.ensureStream p attached ranged g).1.1 = .ok s
      ∧ s.Follows (f.ensureStream p attached ranged g).2 r := by
  unfold source? at hr
  cases hs : f.stream with
  | some s =>
    rw [hs] at hr
    obtain ⟨c, hc, hfollows⟩ := (hf s hs).follows hcalm
    simp only [hc, Option.some.injEq] at hr
    rw [ensureStream_of_some hs]
    exact ⟨s, rfl, hr ▸ hfollows⟩
  | none =>
    rw [hs] at hr
    obtain ⟨c, hc, rfl⟩ := Option.map_eq_some_iff.mp hr
    have hl : Ledger g.engine held loose := by
      simpa [handles, hs] using l
    have hopen : p.isClosed = false := by
      cases hclosed : p.isClosed with
      | false => rfl
      | true => simp [Package.source?, hclosed] at hc
    have ho := f.opening_opened hl hi hk attached ranged
    obtain ⟨s, hsome, hfollows⟩ := ho.follows hcalm hc (Package.source?_start hc)
    rw [ensureStream_of_none hs hopen, map_apply, hsome]
    exact ⟨s, rfl, hfollows⟩

/-- A stream is handed over at the start of its bytes. -/
theorem handOver_follows {r : PlainCursor}
    (hr : f.source? p attached g.engine ranged = some r) :
    ∃ s, (f.handOver p attached ranged g).1.1 = some s
      ∧ s.Follows (f.handOver p attached ranged g).2 r := by
  obtain ⟨s, hs, hfollows⟩ := ensureStream_follows l hi hk hcalm hf hr
  unfold handOver
  rw [bind_apply]
  generalize f.ensureStream p attached ranged g = x at hs hfollows ⊢
  obtain ⟨⟨a, f'⟩, g'⟩ := x
  cases hs
  exact ⟨s, rfl, hfollows⟩

end Sources

end Fetch

end EpubAccess
