/-
  EpubAccess.Error
  ────────────────────────────────
  Why an operation fails.

  An `EngineError` is the engine's refusal of a cursor operation, an
  `AccessError` a failure of this library, an `IoError` a failure in the terms
  of general byte streams and files.  Every access error is an I/O error too
  (`AccessError.toIoError`): an I/O error passes through, a refused operation
  and a closed object have kinds of their own, and all else is `other`.
-/
import EpubAccess.Handle

namespace EpubAccess

/-! ## Refusals of the engine. -/

/-- Why the engine refuses a cursor operation. -/
inductive EngineError where
  /-- The byte stream cannot do this. -/
  | unsupported (operation : String)
  /-- The engine does not know the handle. -/
  | invalidHandle (h : Handle)
  /-- Anything else. -/
  | failed (reason : String)
  deriving DecidableEq, Inhabited

/-- The wording of a refusal. -/
def EngineError.message : EngineError → String
  | .unsupported operation => operation ++ " is not supported by this byte stream"
  | .invalidHandle h => "Invalid handle " ++ h.text
  | .failed reason => reason

/-! ## I/O errors. -/

/-- The kinds of I/O errors. -/
inductive IoErrorKind where
  | unsupported
  | invalidInput
  | notConnected
  | timedOut
  | notFound
  | isADirectory
  | notADirectory
  | invalidFilename
  | other
  deriving DecidableEq, Inhabited

/-- The name of a kind. -/
def IoErrorKind.name : IoErrorKind → String
  | .unsupported => "Unsupported"
  | .invalidInput => "InvalidInput"
  | .notConnected => "NotConnected"
  | .timedOut => "TimedOut"
  | .notFound => "NotFound"
  | .isADirectory => "IsADirectory"
  | .notADirectory => "NotADirectory"
  | .invalidFilename => "InvalidFilename"
  | .other => "Other"

/-- An I/O error: its kind and its wording. -/
structure IoError where
  kind : IoErrorKind
  message : String
  deriving DecidableEq, Inhabited

/-! ## Failures of the library. -/

/-- Why an operation of the library fails. -/
inductive AccessError where
  /-- The engine cannot open the archive. -/
  | containerOpen (path : String)
  /-- The object was closed before. -/
  | closed (what : String)
  /-- The package has no stream for the path. -/
  | streamUnavailable (path : String)
  /-- The stream cannot do this. -/
  | unsupported (operation : String)
  /-- The package belongs to no open container. -/
  | containerDetached
  /-- The engine refused. -/
  | engine (cause : EngineError)
  /-- A document is not JSON of the expected shape. -/
  | json
  /-- A file or byte stream failed. -/
  | io (cause : IoError)
  /-- A setting has no usable value. -/
  | config (reason : String)
  deriving DecidableEq, Inhabited

namespace AccessError

/-- The wording of a failure. -/
def message : AccessError → String
  | containerOpen path => "Failed to open container: " ++ path
  | closed what => what ++ " is closed"
  | streamUnavailable path => "No stream available for " ++ path
  | unsupported operation => "Unsupported stream operation: " ++ operation
  | containerDetached => "Package is not attached to a live container"
  | engine cause => "Native error: " ++ cause.message
  | json => "JSON error: not a document of the expected shape"
  | io cause => "IO error: " ++ cause.message
  | config reason => "Configuration error: " ++ reason

/-- The failure as an I/O error. -/
def toIoError (e : AccessError) : IoError :=
  match e with
  | io cause => cause
  | unsupported _ | engine (.unsupported _) => ⟨.unsupported, e.message⟩
  | closed _ => ⟨.notConnected, e.message⟩
  | _ => ⟨.other, e.message⟩

end AccessError

end EpubAccess
