/-
  EpubAccess.Proofs.Fetches.Answers
  ────────────────────────────────
  What a fetch answers, in terms of what it reads from.

  `Fetch.source?` is the plain cursor over what a fetch reads from, be it the
  stream that it holds or the resource that it opens.  Without faults a fetch
  gives a stream exactly if it has a source, and reading everything or a range
  answers as the source does (`Fetch.readAll_answer`, `Fetch.readRange_answer`).
-/
import EpubAccess.Proofs.Streams.Sources

namespace EpubAccess

open Stateful

/-! ## §1. Plain cursors at the start. -/

namespace PlainCursor

/-- What the engine's cursor behind a plain one is about, from the start again. -/
theorem ofCursor_behind {c : Cursor} {cap cap' : UInt64} (h : cap'.toNat = cap.toNat) :
    ofCursor (ofCursor c cap).behind cap' = ofCursor c cap := by
  show start c.contents c.seekable c.ranged cap'.toNat
    = start c.contents c.seekable c.ranged cap.toNat
  rw [h]

/-- A range is refused only if it is not empty and the bytes support none. -/
theorem readRange_toOption (r : PlainCursor) (offset n : Nat) :
    (r.readRange offset n).1.toOption
      = if offset < min (offset + n) r.size ∧ (r.ranged || r.seekable) = false then none
        else some (r.slice offset n) := by
  unfold readRange
  by_cases hempty : min (offset + n) r.size ≤ offset
  · have hslice : r.slice offset n = .empty := slice_eq_empty hempty
    rw [if_pos hempty, if_neg (fun h => absurd h.1 (Nat.not_lt.mpr hempty)), hslice]
    rfl
  · rw [if_neg hempty]
    cases hcan : r.ranged || r.seekable with
    | false =>
      rw [if_neg Bool.false_ne_true, if_pos ⟨Nat.lt_of_not_le hempty, rfl⟩]
      rfl
    | true =>
      rw [if_pos rfl, if_neg (fun h => absurd h.2 (by simp))]
      rfl

end PlainCursor

namespace Resource

variable (r : Resource) (raw ranged : Bool) (cap : UInt64)

/-- Everything of a resource, from the start. -/
theorem slice_ofCursor :
    (PlainCursor.ofCursor (r.cursor raw ranged) cap).slice 0 cap.toNat
      = r.contents.bytes.extract 0 (min cap.toNat r.contents.size) := by
  show r.contents.bytes.extract 0 (min (0 + cap.toNat) r.contents.size) = _
  rw [Nat.zero_add]

/-- Only a stream over filtered content that is not for ranges supports none. -/
theorem ofCursor_unsupported :
    ((PlainCursor.ofCursor (r.cursor raw ranged) cap).ranged
        || (PlainCursor.ofCursor (r.cursor raw ranged) cap).seekable) = false
      ↔ ranged = false ∧ raw = false ∧ r.filtered = true := by
  show ((!raw && ranged) || (raw || !r.filtered)) = false ↔ _
  cases raw <;> cases ranged <;> cases r.filtered <;> decide

/-- A range of a resource. -/
theorem readRange_ofCursor (offset n : Nat) :
    ((PlainCursor.ofCursor (r.cursor raw ranged) cap).readRange offset n).1.toOption
      = if offset < min (offset + n) r.contents.size
            ∧ ranged = false ∧ raw = false ∧ r.filtered = true then none
        else some (r.contents.bytes.extract offset (min (offset + n) r.contents.size)) := by
  rw [PlainCursor.readRange_toOption]
  simp only [ofCursor_unsupported]
  rfl

end Resource

/-! ## §2. Answers of a fetch. -/

namespace Fetch

section Answers

variable {ι : Type} {held : ι → Option OwnedHandle} {loose : List OwnedHandle} {g : Gateway}
  {f : Fetch} {p : Package} {i : ι} {attached ranged : Bool}
  (l : Ledger g.engine held (f.handles ++ loose)) (hi : held i = some p.handle)
  (hk : p.handle.kind = .package) (hcalm : g.faults = .none) (hf : f.Ready True g.engine)

include l hi hk hcalm hf

/-- A fetch without a source gives no stream. -/
theorem ensureStream_fails (hr : f.source? p attached g.engine ranged = none) :
    ∃ e, (f.ensureStream p attached ranged g).1.1 = .error e := by
  unfold source? at hr
  cases hs : f.stream with
  | some s =>
    rw [hs] at hr
    obtain ⟨c, hc, -⟩ := (hf s hs).follows hcalm
    simp [hc] at hr
  | none =>
    rw [hs] at hr
    have hnone : p.source? attached g.engine f.path f.raw ranged = none :=
      Option.map_eq_none_iff.mp hr
    have hl : Ledger g.engine held loose := by
      simpa [handles, hs] using l
    cases hp : p.isClosed with
    | true =>
      rw [ensureStream_of_closed hs hp]
      exact ⟨_, rfl⟩
    | false =>
      have ho := f.opening_opened hl hi hk attached ranged
      rw [ensureStream_of_none hs hp, map_apply]
      cases hs : (f.opening p attached ranged g).1 with
      | none => exact ⟨_, rfl⟩
      | some s =>
        obtain ⟨c, hc, -⟩ := ho.start s hs
        exact absurd (hnone.symm.trans hc) (by simp)

/-- **Reading everything** gives the first bytes of the source. -/
theorem readAll_answer :
    (f.readAll p attached g).1.1
      = (f.source? p attached g.engine false).map fun r => r.slice r.position r.cap := by
  unfold readAll
  rw [bind_apply]
  cases hr : f.source? p attached g.engine false with
  | none =>
    obtain ⟨e, he⟩ := ensureStream_fails l hi hk hcalm hf hr
    generalize f.ensureStream p attached false g = x at he ⊢
    obtain ⟨⟨a, f'⟩, g'⟩ := x
    cases he
    rfl
  | some r =>
    obtain ⟨s, hs, hfollows⟩ := ensureStream_follows l hi hk hcalm hf hr
    generalize f.ensureStream p attached false g = x at hs hfollows ⊢
    obtain ⟨⟨a, f'⟩, g'⟩ := x
    cases hs
    exact congrArg some hfollows.readAll.answer

/-- **Reading a range** gives that range of the source, unless it is refused. -/
theorem readRange_answer (offset n : UInt64) :
    (f.readRange p attached offset n g).1.1
      = (f.source? p attached g.engine true).bind fun r =>
          (r.readRange offset.toNat n.toNat).1.toOption := by
  unfold readRange
  rw [bind_apply]
  cases hr : f.source? p attached g.engine true with
  | none =>
    obtain ⟨e, he⟩ := ensureStream_fails l hi hk hcalm hf hr
    generalize f.ensureStream p attached true g = x at he ⊢
    obtain ⟨⟨a, f'⟩, g'⟩ := x
    cases he
    rfl
  | some r =>
    obtain ⟨s, hs, hfollows⟩ := ensureStream_follows l hi hk hcalm hf hr
    generalize f.ensureStream p attached true g = x at hs hfollows ⊢
    obtain ⟨⟨a, f'⟩, g'⟩ := x
    cases hs
    dsimp only
    rw [Option.bind_some]
    by_cases hn : n = 0
    · -- no byte is asked for, so nothing is read
      rw [if_pos hn, hn]
      have hempty : min (offset.toNat + (0 : UInt64).toNat) r.size ≤ offset.toNat :=
        Nat.min_le_left ..
      rw [PlainCursor.readRange_toOption, if_neg (fun h => absurd h.1 (Nat.not_lt.mpr hempty)),
        PlainCursor.slice_eq_empty hempty]
      rfl
    · rw [if_neg hn]
      have hread := (hfollows.readRange offset n).answer
      rw [bind_apply]
      generalize s.readRange offset n g' = y at hread ⊢
      obtain ⟨⟨b, s'⟩, g''⟩ := y
      dsimp only at hread
      rw [← hread]
      cases b <;> rfl

end Answers

end Fetch

end EpubAccess
