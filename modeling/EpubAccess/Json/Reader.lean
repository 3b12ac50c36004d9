/-
  EpubAccess.Json.Reader
  ────────────────────────────────
  From the structure of a JSON document to its value.

  A quoted text is read by joining surrogate pairs; a surrogate without its
  partner is refused.  A number without fraction and exponent is whole if it
  fits a signed or an unsigned 64-bit word and is not `-0`; any other number
  becomes a double (`Numeral.double?`), and one too large for a double is
  refused.  Objects come out with their names in ascending order, each name
  once, the last member of a name counting.  `parse?` bounds nesting by
  `nestingLimit`.
-/
import Std.Data.ExtTreeMap
import EpubAccess.Json.Basic
import EpubAccess.Json.Outline

namespace EpubAccess.Json

/-! ## Texts. -/

/-- Is the UTF-16 unit the first half of a pair? -/
def isHighUnit (n : Nat) : Bool := 0xD800 ≤ n && n < 0xDC00

/-- Is the UTF-16 unit the second half of a pair? -/
def isLowUnit (n : Nat) : Bool := 0xDC00 ≤ n && n < 0xE000

/-- The characters of a quoted text, unless it holds half a pair. -/
def characters? : List Piece → Option (List Char)
  | [] => some []
  | .char c :: rest => (characters? rest).map (c :: ·)
  | [.unit n] => if isHighUnit n || isLowUnit n then none else some [Char.ofNat n]
  | .unit n :: .char c :: rest =>
    if isHighUnit n || isLowUnit n then none
    else (characters? rest).map (Char.ofNat n :: c :: ·)
  | .unit n :: .unit m :: rest =>
    if isHighUnit n then
      if isLowUnit m then
        (characters? rest).map (Char.ofNat (0x10000 + (n - 0xD800) * 0x400 + (m - 0xDC00)) :: ·)
      else none
    else if isLowUnit n then none
    else (characters? (.unit m :: rest)).map (Char.ofNat n :: ·)

/-- The text of a quoted text. -/
def text? (pieces : List Piece) : Option String := (characters? pieces).map String.ofList

/-! ## Numbers. -/

namespace Numeral

/-- Digits appended to a number below `bound` for as long as it stays below;
with the digits that did not fit. -/
def gather (bound : Nat) : Nat → List Nat → Nat × List Nat
  | n, [] => (n, [])
  | n, d :: ds => if 10 * n + d < bound then gather bound (10 * n + d) ds else (n, d :: ds)

/-- Numbers that fit an unsigned 64-bit word are below this. -/
def wordBound : Nat := UInt64.size

/-- Exponents from `-exponentBound` up to but not including it are exact;
sums outside are clamped. -/
def exponentBound : Nat := 0x80000000

/-- A power of ten as a double. -/
def tenTo (k : Nat) : Float := OfScientific.ofScientific 1 false k

/-- `f` times `10 ^ e` in steps of at most 308 powers of ten, `none` if that is
not finite.  The first argument bounds the number of steps. -/
def scale? : Nat → Float → Int → Option Float
  | 0, f, _ => some f
  | room + 1, f, e =>
    if e.natAbs ≤ 308 then
      if 0 ≤ e then
        let r := f * tenTo e.natAbs
        if r.isInf then none else some r
      else some (f / tenTo e.natAbs)
    else if f == 0.0 then some f
    else if 0 ≤ e then none
    else scale? room (f / tenTo 308) (e + 308)

/-- The significant digits that fit a word, and the power of ten they are
multiplied with before the exponent counts. -/
def significand (n : Numeral) : Nat × Int :=
  let (whole, skipped) := gather wordBound 0 n.whole
  match n.fraction with
  | none => (whole, skipped.length)
  | some ds =>
    let (all, ignored) := gather wordBound whole ds
    (all, (skipped.length : Int) - ((ds.length - ignored.length : Nat) : Int))

/-- The power of ten with the exponent added; `none` when the exponent itself
is out of range. -/
def power? (n : Numeral) (start : Int) : Option Int :=
  match n.exponent with
  | none => some start
  | some (negative, ds) =>
    let (e, ignored) := gather exponentBound 0 ds
    if ignored.isEmpty then
      let sum := if negative then start - e else start + e
      some (max (-(exponentBound : Int)) (min (exponentBound - 1) sum))
    else none

/-- Does the exponent have a minus sign? -/
def shrinks (n : Numeral) : Bool :=
  match n.exponent with
  | some (negative, _) => negative
  | none => false

/-- The magnitude of the number as a double, `none` if it is too large. -/
def magnitude? (n : Numeral) : Option Float :=
  let (s, start) := n.significand
  match n.power? start with
  | none => if s ≠ 0 ∧ !n.shrinks then none else some 0.0
  | some e => scale? (e.natAbs / 308 + 1) (UInt64.ofNat s).toFloat e

/-- The number as a double, `none` if it is too large. -/
def double? (n : Numeral) : Option Float :=
  n.magnitude?.map fun f => if n.negative then -f else f

/-- The number as a whole number, if it is written as one, fits a word and is
not a negative zero. -/
def whole? (n : Numeral) : Option Int :=
  if n.fraction.isSome || n.exponent.isSome then none
  else
    let (w, skipped) := gather wordBound 0 n.whole
    if !skipped.isEmpty then none
    else if n.negative then
      if 0 < w ∧ w ≤ 0x8000000000000000 then some (-(w : Int)) else none
    else some w

/-- The value of a number. -/
def number? (n : Numeral) : Option Number :=
  match n.whole? with
  | some i => some (.whole i)
  | none => n.double?.map .fraction

end Numeral

/-! ## Values. -/

/-- Members in ascending order of their names, the last of each name. -/
def canonical (members : List (String × Json)) : List (String × Json) :=
  (members.foldl (fun m (k, v) => m.insert k v) (∅ : Std.ExtTreeMap String Json)).toList

namespace Outline

mutual

/-- The value of a document with at most `room` levels of brackets. -/
def value? (room : Nat) : Outline → Option Json
  | .null => some .null
  | .bool b => some (.bool b)
  | .number n => n.number?.map .number
  | .text pieces => (Json.text? pieces).map .string
  | .array items =>
    match room with
    | 0 => none
    | room + 1 => (values? room items).map .array
  | .object members =>
    match room with
    | 0 => none
    | room + 1 => (members? room members).map fun ms => .object (canonical ms)

/-- The values of the items of an array. -/
def values? (room : Nat) : List Outline → Option (List Json)
  | [] => some []
  | v :: rest => do
    let v ← v.value? room
    let rest ← values? room rest
    some (v :: rest)

/-- The members of an object, as written. -/
def members? (room : Nat) : List (List Piece × Outline) → Option (List (String × Json))
  | [] => some []
  | (name, v) :: rest => do
    let name ← Json.text? name
    let v ← v.value? room
    let rest ← members? room rest
    some ((name, v) :: rest)

end

end Outline

/-- How many brackets may be open at once. -/
def nestingLimit : Nat := 127

/-- The value of a JSON text. -/
def parse? (s : String) : Option Json :=
  (outline? s.toList).bind (Outline.value? nestingLimit)

end EpubAccess.Json
