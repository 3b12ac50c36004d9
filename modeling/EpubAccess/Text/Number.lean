/-
  EpubAccess.Text.Number
  ────────────────────────────────
  Numbers as texts: written in base sixteen, and read in base ten.

  `Hex.upper` and `Hex.lower` write a natural number with the fewest digits,
  most significant first, and zero as a single `0`.  `Hex.value?` reads one
  digit of either case, and `Hex.value?_digit` says that it undoes both
  writers.

  A size, as people write it in settings, is an optional plus sign and one or
  more ASCII digits that denote a number below 2 ^ 64.  `Size.parse` reads
  from the left, and what it meets first decides about the error: a character
  that is no digit, or a digit with which the number no longer fits.
-/

namespace EpubAccess.Text

/-! ## Base sixteen. -/

namespace Hex

/-- The digit of a number below sixteen, letters in lower case. -/
def lowerDigit (d : Nat) : Char := Nat.digitChar d

/-- The digit of a number below sixteen, letters in upper case. -/
def upperDigit (d : Nat) : Char := (Nat.digitChar d).toUpper

/-- The value of a hexadecimal digit of either case. -/
def value? (c : Char) : Option Nat :=
  let n := c.toNat
  if 48 ≤ n ∧ n ≤ 57 then some (n - 48)
  else if 65 ≤ n ∧ n ≤ 70 then some (n - 55)
  else if 97 ≤ n ∧ n ≤ 102 then some (n - 87)
  else none

/-- Reading a written digit gives its number back, in either case. -/
theorem value?_digit : ∀ d < 16,
    value? (upperDigit d) = some d ∧ value? (lowerDigit d) = some d := by
  decide

/-- `n` in lower case, without leading zeros. -/
def lower (n : Nat) : String := String.ofList (Nat.toDigits 16 n)

/-- `n` in upper case, without leading zeros. -/
def upper (n : Nat) : String := String.ofList ((Nat.toDigits 16 n).map Char.toUpper)

end Hex

/-! ## Sizes. -/

namespace Size

/-- Why a text is no size. -/
inductive SizeError where
  | empty
  | invalidDigit
  | tooLarge
  deriving DecidableEq, Inhabited

/-- The wording of an error. -/
def SizeError.message : SizeError → String
  | .empty => "cannot parse integer from empty string"
  | .invalidDigit => "invalid digit found in string"
  | .tooLarge => "number too large to fit in target type"

/-- Sizes are below this. -/
def bound : Nat := UInt64.size

/-- The value of an ASCII digit. -/
def digit? (c : Char) : Option Nat :=
  if 48 ≤ c.toNat ∧ c.toNat ≤ 57 then some (c.toNat - 48) else none

/-- A number with further digits appended. -/
def digits (n : Nat) : List Char → Except SizeError Nat
  | [] => .ok n
  | c :: cs =>
    match digit? c with
    | none => .error .invalidDigit
    | some d => if 10 * n + d < bound then digits (10 * n + d) cs else .error .tooLarge

/-- The size that a text denotes. -/
def parse : List Char → Except SizeError Nat
  | [] => .error .empty
  | ['+'] => .error .invalidDigit
  | '+' :: cs => digits 0 cs
  | cs => digits 0 cs

end Size

end EpubAccess.Text
