/-
  EpubAccess.Handle
  ────────────────────────────────
  References to objects that the engine owns.

  A handle is a number that the access layer passes back and never
  interprets; only its order (for registries) and its text (for messages)
  are used.  A `HandleKind` says which of the three object families a handle
  belongs to, and with that which engine call gives it back.
-/
import Std.Data.ExtTreeMap
import EpubAccess.Text.Number

namespace EpubAccess

/-- An engine object, named by a number. -/
structure Handle where
  number : Nat
  deriving DecidableEq, Inhabited

namespace Handle

/-- Handles are shown in hexadecimal, upper case and without leading zeros. -/
def text (h : Handle) : String := Text.Hex.upper h.number

/-! ## Order. -/

/-- Handles are ordered by their numbers. -/
instance : Ord Handle := ⟨compareOn Handle.number⟩

theorem compare_eq (a b : Handle) : compare a b = compare a.number b.number := rfl

instance : Std.TransOrd Handle where
  eq_swap := by intro a b; simpa [compare_eq] using Std.OrientedCmp.eq_swap
  isLE_trans := by
    intro a b c hab hbc
    simp only [compare_eq] at hab hbc ⊢
    exact Std.TransCmp.isLE_trans hab hbc

instance : Std.LawfulEqOrd Handle where
  compare_self := by intro a; simp
  eq_of_compare := by
    intro a b h
    cases a
    cases b
    simpa [compare_eq] using h

end Handle

/-- The three families of engine objects. -/
inductive HandleKind where
  | container
  | package
  | stream
  deriving DecidableEq, Inhabited

namespace HandleKind

/-- Every kind, in declaration order. -/
def all : List HandleKind := [.container, .package, .stream]

/-- The word that messages use. -/
def word : HandleKind → String
  | .container => "container"
  | .package => "package"
  | .stream => "stream"

/-- The name of the kind itself. -/
def name : HandleKind → String
  | .container => "Container"
  | .package => "Package"
  | .stream => "Stream"

end HandleKind

end EpubAccess
