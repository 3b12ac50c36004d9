/-
  EpubAccess.Json.Basic
  ────────────────────────────────
  JSON values and their text.

  An object is the list of its members in the order in which they are
  written.  `Json.compact` writes a value without white space; a text is
  quoted by `Json.quotedChars`, which escapes the quote, the backslash and the
  control characters and nothing else.  Whole numbers are written as they
  are, fractions by the shortest decimal that reads back.
-/
import EpubAccess.Text.Number
import EpubAccess.Json.Shortest

namespace EpubAccess

/-- A number of a JSON document: whole, or a double. -/
inductive Json.Number where
  | whole (i : Int)
  | fraction (x : Float)
  deriving Inhabited

/-- A JSON value. -/
inductive Json where
  | null
  | bool (b : Bool)
  | number (n : Json.Number)
  | string (s : String)
  | array (items : List Json)
  | object (members : List (String × Json))
  deriving Inhabited

namespace Json

/-! ## Numbers. -/

/-- A digit character. -/
def digitChar (d : Nat) : Char := Char.ofNat (48 + d)

/-- A whole number in decimal. -/
def wholeChars (i : Int) : List Char :=
  if i < 0 then '-' :: Nat.toDigits 10 i.natAbs else Nat.toDigits 10 i.natAbs

/-- How doubles are laid out: positional notation for leading digits at the
powers of ten from `leastPositional` to `mostPositional`, always with a
fractional part, and scientific notation outside, with the sign of the
exponent always written. -/
structure FractionLayout where
  leastPositional : Int
  mostPositional : Int

/-- Positional notation from 0.00001 up to sixteen digits before the point. -/
def fractionLayout : FractionLayout := ⟨-5, 15⟩

/-- Positional notation of a decimal. -/
def positional (d : Decimal) : List Char :=
  let cs := d.digits.map digitChar
  if d.exponent < 0 then
    '0' :: '.' :: (List.replicate (-d.exponent - 1).toNat '0' ++ cs)
  else
    let before := d.exponent.toNat + 1
    let whole := (cs.take before) ++ List.replicate (before - cs.length) '0'
    let rest := cs.drop before
    whole ++ '.' :: (if rest.isEmpty then ['0'] else rest)

/-- Scientific notation of a decimal. -/
def scientific (d : Decimal) : List Char :=
  let cs := d.digits.map digitChar
  let lead := cs.take 1
  let rest := cs.drop 1
  lead ++ (if rest.isEmpty then [] else '.' :: rest)
    ++ 'e' :: (if d.exponent < 0 then '-' else '+') :: Nat.toDigits 10 d.exponent.natAbs

/-- A double as JSON writes it. -/
def fractionChars (x : Float) : List Char :=
  let d := Decimal.ofFloat x
  let body :=
    if fractionLayout.leastPositional ≤ d.exponent ∧ d.exponent ≤ fractionLayout.mostPositional
    then positional d else scientific d
  if x.toBits >>> 63 = 1 then '-' :: body else body

/-- A number as JSON writes it. -/
def Number.chars : Number → List Char
  | .whole i => wholeChars i
  | .fraction x => fractionChars x

/-! ## Texts. -/

/-- One character inside a quoted text. -/
def escaped (c : Char) : List Char :=
  if c = '"' then ['\\', '"']
  else if c = '\\' then ['\\', '\\']
  else if c = '\x08' then ['\\', 'b']
  else if c = '\x0c' then ['\\', 'f']
  else if c = '\n' then ['\\', 'n']
  else if c = '\r' then ['\\', 'r']
  else if c = '\t' then ['\\', 't']
  else if c.toNat < 32 then
    ['\\', 'u', '0', '0', Text.Hex.lowerDigit (c.toNat / 16), Text.Hex.lowerDigit (c.toNat % 16)]
  else [c]

/-- A text between quotes. -/
def quotedChars (s : String) : List Char :=
  '"' :: (s.toList.flatMap escaped ++ ['"'])

/-! ## Values without white space. -/

mutual

/-- A value without white space. -/
def chars : Json → List Char
  | .null => ['n', 'u', 'l', 'l']
  | .bool true => ['t', 'r', 'u', 'e']
  | .bool false => ['f', 'a', 'l', 's', 'e']
  | .number n => n.chars
  | .string s => quotedChars s
  | .array items => '[' :: itemChars items
  | .object members => '\x7b' :: memberChars members

/-- The items of an array, up to its closing bracket. -/
def itemChars : List Json → List Char
  | [] => [']']
  | [v] => v.chars ++ [']']
  | v :: w :: rest => v.chars ++ ',' :: itemChars (w :: rest)

/-- The members of an object, up to its closing bracket. -/
def memberChars : List (String × Json) → List Char
  | [] => ['\x7d']
  | [(k, v)] => quotedChars k ++ ':' :: (v.chars ++ ['\x7d'])
  | (k, v) :: m :: rest => quotedChars k ++ ':' :: (v.chars ++ ',' :: memberChars (m :: rest))

end

/-- The text of a value without white space. -/
def compact (v : Json) : String := String.ofList v.chars

/-! ## Objects with optional members. -/

/-- A member that is present only with a value. -/
def textMember? (key : String) (value : Option String) : List (String × Json) :=
  match value with
  | some s => [(key, .string s)]
  | none => []

end Json

end EpubAccess
