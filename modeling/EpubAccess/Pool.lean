/-
  EpubAccess.Pool
  ────────────────────────────────
  Objects that several owners share.

  A pool keeps its objects under numbers that it hands out in order and never
  again.  Owners refer to an object by its number; identity of objects is
  equality of numbers.
-/
import Std.Data.ExtTreeMap

namespace EpubAccess

/-- Objects by number, and the next number to hand out. -/
structure Pool (α : Type) where
  members : Std.ExtTreeMap Nat α
  next : Nat

namespace Pool

variable {α : Type}

/-- A pool without objects. -/
def empty : Pool α := { members := ∅, next := 0 }

instance : Inhabited (Pool α) := ⟨empty⟩

/-- The object with a number. -/
def get? (p : Pool α) (id : Nat) : Option α := p.members[id]?

/-- A new object under the next number. -/
def add (p : Pool α) (a : α) : Nat × Pool α :=
  (p.next, { members := p.members.insert p.next a, next := p.next + 1 })

/-- An object replaced by its later state. -/
def set (p : Pool α) (id : Nat) (a : α) : Pool α := { p with members := p.members.insert id a }

/-- An object gone. -/
def remove (p : Pool α) (id : Nat) : Pool α := { p with members := p.members.erase id }

/-- Does some object satisfy the test? -/
def any (p : Pool α) (test : α → Bool) : Bool := p.members.any fun _ a => test a

end Pool

end EpubAccess
