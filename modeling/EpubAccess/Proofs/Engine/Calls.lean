/-
  EpubAccess.Proofs.Engine.Calls
  ────────────────────────────────
  The calls that work at the gateway makes.

  `Gateway.Calls m g new` says that the work `m`, begun at `g`, adds the calls
  `new` to the engine's log and no others.  It is closed under sequencing.  A
  call that no fault answers is recorded as it is made.  `Gateway.OnlyLogs a m`
  says that the work makes no call at all, wherever it begins: it answers `a` and
  changes nothing but what is noted.
-/
import EpubAccess.Proofs.Lifetimes.Forward
import EpubAccess.Proofs.Ownership.Uses

namespace EpubAccess

open Stateful

namespace Engine

/-- What goes on without a call adds nothing to the log. -/
theorem Proceeds.log {e e' : Engine} (h : Proceeds e e') : e'.log = e.log :=
  congrArg Array.toList h.calls

/-- What goes on after a call was recorded adds nothing else. -/
theorem Proceeds.log_record {e e' : Engine} {c : Call} (h : Proceeds (e.record c) e') :
    e'.log = e.log ++ [c] :=
  h.log.trans (e.log_record c)

end Engine

namespace Gateway

variable {α β : Type} {g : Gateway} {h : Handle} {new new' : List Call}

/-- The work adds these calls to the log. -/
def Calls (m : StateM Gateway α) (g : Gateway) (new : List Call) : Prop :=
  (m g).2.engine.log = g.engine.log ++ new

namespace Calls

theorem of_same {m : StateM Gateway α} (h : (m g).2.engine = g.engine) : Calls m g [] := by
  unfold Calls
  rw [h, List.append_nil]

theorem pure (a : α) : Calls (pure a) g [] := of_same rfl

theorem emit (e : Event) : Calls (Gateway.emit e) g [] := of_same rfl

theorem bind {m : StateM Gateway α} {f : α → StateM Gateway β} (hm : Calls m g new)
    (hf : Calls (f (m g).1) (m g).2 new') : Calls (m >>= f) g (new ++ new') := by
  show (f (m g).1 (m g).2).2.engine.log = _
  rw [hf, hm, List.append_assoc]

/-- What is made of an answer without a call. -/
theorem answer {m : StateM Gateway α} {f : α → StateM Gateway β} (hm : Calls m g new)
    (hf : ∀ a g, (f a g).2.engine = g.engine) : Calls (m >>= f) g new := by
  show (f (m g).1 (m g).2).2.engine.log = _
  rw [hf]
  exact hm

/-- A call that reaches the engine and is recorded there. -/
theorem call {c : Call} {f : Engine → α × Engine}
    (hf : Engine.Proceeds (g.engine.record c) (f g.engine).2) : Calls (Gateway.call f) g [c] :=
  hf.log_record

theorem answerable {waiting : Faults → List α} {set : List α → Faults → Faults}
    {f : Engine → α × Engine} (hw : waiting g.faults = []) (hf : Calls (Gateway.call f) g new) :
    Calls (Gateway.answerable waiting set f) g new := by
  unfold Calls Gateway.answerable
  rw [hw]
  exact hf

theorem fallible {waiting : Faults → List EngineError} {set : List EngineError → Faults → Faults}
    {f : Engine → Except EngineError α × Engine} (hw : waiting g.faults = [])
    (hf : Calls (Gateway.call f) g new) : Calls (Gateway.fallible waiting set f) g new := by
  unfold Calls Gateway.fallible
  rw [hw]
  exact hf

theorem refusable {refusals : Faults → Nat} {set : Nat → Faults → Faults}
    {f : Engine → Option Handle × Engine} (hw : refusals g.faults = 0)
    (hf : Calls (Gateway.call f) g new) : Calls (Gateway.refusable refusals set f) g new := by
  unfold Calls Gateway.refusable
  rw [hw]
  exact hf

end Calls

/-! ## Calls about streams. -/

variable (hcalm : g.faults = .none)

include hcalm

theorem skip_calls (n : UInt64) : Calls (skip h n) g [.skip h n] :=
  .fallible (by rw [hcalm]; rfl) (.call (Engine.onCursor_proceeds _ _ _ _))

theorem readAll_calls (cap : UInt64) : Calls (readAll h cap) g [.readAll h] :=
  .answerable (by rw [hcalm]; rfl) (.call (Engine.onCursor_proceeds _ _ _ _))

theorem readRange_calls (offset n : UInt64) :
    Calls (readRange h offset n) g [.readRange h offset n] :=
  .answerable (by rw [hcalm]; rfl) (.call (Engine.onCursor_proceeds _ _ _ _))

theorem available_calls : Calls (available h) g [.available h] :=
  .answerable (by rw [hcalm]; rfl) (.call (Engine.onCursor_proceeds _ _ _ _))

/-! ## Calls that open. -/

theorem openStream_calls (path : String) (hint : UInt64) (ranged : Bool) :
    Calls (openStream h path hint ranged) g [.openStream h path ranged] :=
  .bind (.of_same rfl) (.refusable (congrArg Faults.refusedOpenStreams hcalm)
    (.call ((g.engine.record _).resourceStream_proceeds h path false ranged)))

theorem openRawStream_calls (path : String) (hint : UInt64) :
    Calls (openRawStream h path hint) g [.openRawStream h path] :=
  .bind (.of_same rfl) (.refusable (congrArg Faults.refusedOpenRawStreams hcalm)
    (.call ((g.engine.record _).resourceStream_proceeds h path true false)))

theorem rawContainerStream_calls (path : String) :
    Calls (rawContainerStream h path) g [.rawContainerStream h path] :=
  .refusable (congrArg Faults.refusedRawContainerStreams hcalm)
    (.call (g.engine.rawContainerStream_proceeds h path))

omit hcalm in
theorem closeStream_calls : Calls (closeStream h) g [.closeStream h] :=
  .answer (.call ((g.engine.record _).takeBack_proceeds h)) fun e _ => by cases e <;> rfl

omit hcalm

/-! ## Work that makes no call. -/

variable {a : α} {b : β}

/-- The work answers `a` and writes into the log at most. -/
def OnlyLogs (a : α) (m : StateM Gateway α) : Prop :=
  ∀ g, ∃ events, m g = (a, { g with events := events })

theorem OnlyLogs.pure (a : α) : OnlyLogs a (pure a) := fun g => ⟨g.events, rfl⟩

theorem OnlyLogs.emit (e : Event) : OnlyLogs () (Gateway.emit e) := fun g => ⟨g.events.push e, rfl⟩

theorem OnlyLogs.bind {m : StateM Gateway α} {f : α → StateM Gateway β} (hm : OnlyLogs a m)
    (hf : OnlyLogs b (f a)) : OnlyLogs b (m >>= f) := by
  intro g
  obtain ⟨events, hg⟩ := hm g
  obtain ⟨events', hg'⟩ := hf { g with events := events }
  refine ⟨events', ?_⟩
  rw [bind_apply, hg]
  exact hg'

end Gateway

end EpubAccess
