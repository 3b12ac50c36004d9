/-
  EpubAccess.Host.Session
  ────────────────────────────────
  A host at work, step by step.

  `Host.step` runs a command and reports, beside its answer, the engine calls
  and log events that it caused and the engine's counters afterwards.
  `Host.session` runs a sequence and then empties every slot.
-/
import EpubAccess.Host.Step

namespace EpubAccess

/-- The numbers by which the engine judges its use. -/
structure Counters where
  liveHandles : Nat
  liveStreams : Nat
  doubleReleases : Nat
  danglingUses : Nat
  registryWarnings : Nat
  deriving DecidableEq, Inhabited

/-- The counters of an engine. -/
def Engine.counters (e : Engine) : Counters :=
  { liveHandles := e.liveHandles
    liveStreams := e.liveStreams
    doubleReleases := e.doubleReleases
    danglingUses := e.danglingUses
    registryWarnings := e.registryWarnings }

/-- What a step did. -/
structure StepReport where
  answer : Answer
  /-- The engine calls of the step, in order. -/
  calls : Array Call
  /-- The log events of the step, in order. -/
  events : Array Event
  counters : Counters
  /-- Several containers went in no promised order. -/
  unordered : Bool
  deriving Inhabited

namespace Host

/-- Does the command close or drop a library? -/
def endsLibrary (w : Host) : Command → Bool
  | .closeLibrary _ => true
  | .drop slot =>
    match w.slots[slot]? with
    | some (.library _) => true
    | _ => false
  | _ => false

/-- One command with everything that it caused. -/
def step (c : Command) : StateM Host StepReport := do
  let w ← get
  let calls := w.gateway.engine.calls.size
  let events := w.gateway.events.size
  let unordered := w.endsLibrary c
  let answer ← run c
  let g := (← get).gateway
  pure
    { answer
      calls := g.engine.calls.extract calls g.engine.calls.size
      events := g.events.extract events g.events.size
      counters := g.engine.counters
      unordered }

/-- Several commands, one after the other; then every slot is emptied.  Gives
the counters at the end too. -/
def session (cs : List Command) : StateM Host (List StepReport × Counters) := do
  let reports ← cs.mapM step
  clearAll
  pure (reports, (← get).gateway.engine.counters)

end Host

end EpubAccess
