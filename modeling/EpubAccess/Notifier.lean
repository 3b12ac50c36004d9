/-
  EpubAccess.Notifier
  ────────────────────────────────
  Messages that the engine sends to the host.

  At most one handler takes them; without one they are logged.  What a
  handler answers is advice only.  A handler may change or remove the handler
  that is installed, or send a message itself while it takes one.
-/
import EpubAccess.Event

namespace EpubAccess

/-- What a handler does with a message. -/
inductive HandlerMode where
  /-- Advise to go on. -/
  | goOn
  /-- Advise to stop. -/
  | stop
  /-- Advise to go on unless the message is severe. -/
  | notSevere
  /-- Remove the handler. -/
  | clear
  /-- Install a handler that advises to stop. -/
  | replace
  /-- Send a short message on, longer by one sign and with the other severity. -/
  | nested
  deriving DecidableEq, Inhabited

/-- A message as a handler saw it. -/
structure Sighting where
  mode : HandlerMode
  message : String
  severe : Bool
  deriving DecidableEq, Inhabited

/-- The handler that is installed, and what handlers saw, latest first. -/
structure Notifier where
  handler : Option HandlerMode
  seen : List Sighting
  deriving DecidableEq, Inhabited

namespace Notifier

/-- No handler, nothing seen. -/
def empty : Notifier := ⟨none, []⟩

/-- A message delivered; the first argument is how often it is still short
enough to be sent on.  Gives the advice and what has to be logged. -/
def deliver (n : Notifier) (short : Nat) (message : String) (severe : Bool) :
    (Bool × Option Event) × Notifier :=
  match n.handler with
  | none => ((true, some (.engineMessage severe message)), n)
  | some mode =>
    let n := { n with seen := ⟨mode, message, severe⟩ :: n.seen }
    match mode with
    | .goOn => ((true, none), n)
    | .stop => ((false, none), n)
    | .notSevere => ((!severe, none), n)
    | .clear => ((true, none), { n with handler := none })
    | .replace => ((true, none), { n with handler := some .stop })
    | .nested =>
      match short with
      | 0 => ((true, none), n)
      | short + 1 => n.deliver short (message ++ "+") !severe

/-- Messages from this many bytes on are not sent on. -/
def shortLimit : Nat := 3

/-- A message of the engine. -/
def report (n : Notifier) (message : String) (severe : Bool) : (Bool × Option Event) × Notifier :=
  n.deliver (shortLimit - message.utf8ByteSize) message severe

/-- What was seen, earliest first; it is forgotten. -/
def takeSeen (n : Notifier) : List Sighting × Notifier := (n.seen.reverse, { n with seen := [] })

end Notifier

end EpubAccess
