/-
  EpubAccess.Json.Shortest
  ────────────────────────────────
  The shortest decimal that reads back as a given binary fraction.

  A finite double is a natural number `m` times a power of two.  All reals
  nearer to it than to its neighbours read back as it (both ends included
  when `m` is even): its `Interval`.  `shortest` tries one, two, … seventeen
  significant digits.  On each of these decimal grids only the two points
  around the value can lie in the interval; the first grid with a hit wins,
  of two hits the nearer one, and of two equally near ones the even one.
-/

namespace EpubAccess.Json

/-- A decimal number: the digits, most significant first, and the power of
ten of the digit before the point in scientific notation. -/
structure Decimal where
  digits : List Nat
  exponent : Int
  deriving DecidableEq, Inhabited

namespace Shortest

/-! ## The numbers that read back as the value. -/

/-- A value with the ends of its interval, all over one denominator. -/
structure Interval where
  value : Nat
  low : Nat
  high : Nat
  denominator : Nat
  closed : Bool

/-- The interval of `m * 2 ^ q`.  `narrow` says that the neighbour below is
only half as far away as the one above. -/
def Interval.of (m : Nat) (q : Int) (narrow : Bool) : Interval :=
  let scale := Nat.pow 2 (q - 2).toNat
  { value := 4 * m * scale
    low := (4 * m - if narrow then 1 else 2) * scale
    high := (4 * m + 2) * scale
    denominator := Nat.pow 2 (2 - q).toNat
    closed := m % 2 == 0 }

/-- Does the rational number `a / b` read back as the value? -/
def Interval.holds (i : Interval) (a b : Nat) : Bool :=
  let here := a * i.denominator
  if i.closed then i.low * b ≤ here && here ≤ i.high * b
  else i.low * b < here && here < i.high * b

/-! ## One decimal grid. -/

/-- The distance of `a / b` from the value, over a denominator that depends
on `b` alone. -/
def Interval.distance (i : Interval) (a b : Nat) : Nat :=
  let here := a * i.denominator
  let there := i.value * b
  if here ≤ there then there - here else here - there

/-- The best point of the grid of multiples of `10 ^ power`, if one of the
two around the value reads back. -/
def Interval.onGrid (i : Interval) (power : Int) : Option Nat :=
  let up := Nat.pow 10 power.toNat
  let down := Nat.pow 10 (-power).toNat
  let below := i.value * down / (i.denominator * up)
  let above := below + 1
  match i.holds (below * up) down, i.holds (above * up) down with
  | true, true =>
    let toBelow := i.distance (below * up) down
    let toAbove := i.distance (above * up) down
    if toBelow < toAbove || (toBelow == toAbove && below % 2 == 0) then some below else some above
  | true, false => some below
  | false, true => some above
  | false, false => none

/-! ## All grids. -/

/-- How often a ratio below one has to be multiplied by ten to reach one. -/
def shift (denominator : Nat) : Nat → Nat → Nat
  | 0, _ => 0
  | room + 1, n => if denominator ≤ n then 0 else shift denominator room (n * 10) + 1

/-- The power of ten of the value's leading digit. -/
def Interval.leading (i : Interval) : Int :=
  if i.denominator ≤ i.value then
    ((Nat.toDigits 10 (i.value / i.denominator)).length : Int) - 1
  else -(shift i.denominator 400 i.value : Int)

/-- The digits of a natural number, most significant first. -/
def digits (n : Nat) : List Nat :=
  (Nat.toDigits 10 n).map fun c => c.toNat - 48

/-- A grid point as a decimal without trailing zeros. -/
def toDecimal (point : Nat) (power : Int) : Decimal :=
  let ds := digits point
  let kept := (ds.reverse.dropWhile (· == 0)).reverse
  { digits := if kept.isEmpty then [0] else kept
    exponent := power + ((ds.length : Int) - 1) }

/-- The first hit among the grids with `count`, `count + 1`, … digits. -/
def Interval.search (i : Interval) : Nat → Nat → Decimal
  | 0, _ => { digits := [0], exponent := 0 }
  | room + 1, count =>
    let power := i.leading - ((count : Int) - 1)
    match i.onGrid power with
    | some point => toDecimal point power
    | none => i.search room (count + 1)

/-- The shortest decimal that reads back as `m * 2 ^ q`. -/
def shortest (m : Nat) (q : Int) (narrow : Bool) : Decimal :=
  (Interval.of m q narrow).search 17 1

end Shortest

/-- The shortest decimal of the magnitude of a finite double. -/
def Decimal.ofFloat (x : Float) : Decimal :=
  let power := ((x.toBits >>> 52) &&& 0x7FF).toNat
  let part := (x.toBits &&& 0xFFFFFFFFFFFFF).toNat
  if power = 0 then
    if part = 0 then { digits := [0], exponent := 0 } else Shortest.shortest part (-1074) false
  else Shortest.shortest (part + 0x10000000000000) ((power : Int) - 1075) (part == 0 && 1 < power)

end EpubAccess.Json
