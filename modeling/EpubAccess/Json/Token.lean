/-
  EpubAccess.Json.Token
  ────────────────────────────────
  The tokens of a JSON text.

  `tokens?` reads a text from left to right with one `Scan` state per
  character.  It fixes the form of numbers and of quoted texts, and leaves
  open what they denote: a `Numeral` keeps its digits, and a quoted text is a
  list of `Piece`s in which an escape by number is still one UTF-16 unit.
-/
import EpubAccess.Text.Number

namespace EpubAccess.Json

/-- A number as written. -/
structure Numeral where
  negative : Bool
  whole : List Nat
  fraction : Option (List Nat)
  /-- The sign (is it negative?) and the digits. -/
  exponent : Option (Bool × List Nat)
  deriving DecidableEq, Inhabited

/-- A piece of a quoted text: a character, or a UTF-16 unit written by number. -/
inductive Piece where
  | char (c : Char)
  | unit (n : Nat)
  deriving DecidableEq, Inhabited

/-- A token. -/
inductive Token where
  | openArray
  | closeArray
  | openObject
  | closeObject
  | colon
  | comma
  | null
  | bool (b : Bool)
  | number (n : Numeral)
  | text (pieces : List Piece)
  deriving DecidableEq, Inhabited

/-! ## Numbers. -/

/-- The value of a decimal digit. -/
def digit? (c : Char) : Option Nat :=
  if 48 ≤ c.toNat ∧ c.toNat ≤ 57 then some (c.toNat - 48) else none

/-- Is the character a decimal digit? -/
def isDigit (c : Char) : Bool := (digit? c).isSome

/-- Characters that a number may hold. -/
def isNumberChar (c : Char) : Bool :=
  isDigit c || c == '-' || c == '+' || c == '.' || c == 'e' || c == 'E'

/-- The digits at the front, at least one of them, and what follows. -/
def digits1? (cs : List Char) : Option (List Nat × List Char) :=
  match (cs.takeWhile isDigit).filterMap digit? with
  | [] => none
  | ds => some (ds, cs.dropWhile isDigit)

/-- The whole part: digits of which only a lone one may be zero in front. -/
def wholePart? (cs : List Char) : Option (List Nat × List Char) :=
  match digits1? cs with
  | some (0 :: _ :: _, _) => none
  | found => found

/-- The fractional part, if a point is there. -/
def fractionPart? : List Char → Option (Option (List Nat) × List Char)
  | '.' :: cs => (digits1? cs).map fun (ds, rest) => (some ds, rest)
  | cs => some (none, cs)

/-- The sign of an exponent. -/
def exponentSign : List Char → Bool × List Char
  | '-' :: cs => (true, cs)
  | '+' :: cs => (false, cs)
  | cs => (false, cs)

/-- The exponent, if its letter is there. -/
def exponentPart? : List Char → Option (Option (Bool × List Nat) × List Char)
  | [] => some (none, [])
  | c :: cs =>
    if c = 'e' ∨ c = 'E' then
      let (negative, cs) := exponentSign cs
      (digits1? cs).map fun (ds, rest) => (some (negative, ds), rest)
    else some (none, c :: cs)

/-- A number, made of all the characters given. -/
def Numeral.ofChars? (cs : List Char) : Option Numeral := do
  let (negative, cs) := match cs with
    | '-' :: cs => (true, cs)
    | cs => (false, cs)
  let (whole, cs) ← wholePart? cs
  let (fraction, cs) ← fractionPart? cs
  let (exponent, cs) ← exponentPart? cs
  if cs.isEmpty then some { negative, whole, fraction, exponent } else none

/-! ## Reading a text. -/

/-- What the characters read last belong to. -/
inductive Scan where
  /-- Between two tokens. -/
  | between
  /-- Inside a word that names a value; the rest of the word. -/
  | word (rest : List Char) (token : Token)
  /-- Inside a number; its characters so far, last first. -/
  | number (seen : List Char)
  /-- Inside a quoted text; its pieces so far, last first. -/
  | text (seen : List Piece)
  /-- After a backslash. -/
  | escape (seen : List Piece)
  /-- Inside an escape by number; the digits to come and the value so far. -/
  | unit (seen : List Piece) (left : Nat) (value : Nat)
  deriving DecidableEq, Inhabited

/-- Tokens read so far, last first, and the state of the scan. -/
structure Lexer where
  done : List Token
  scan : Scan
  deriving DecidableEq, Inhabited

namespace Lexer

/-- Before the first character. -/
def start : Lexer := ⟨[], .between⟩

/-- A token is complete. -/
def emit (done : List Token) (t : Token) : Lexer := ⟨t :: done, .between⟩

/-- A character between tokens. -/
def fresh (done : List Token) (c : Char) : Option Lexer :=
  if c = ' ' ∨ c = '\n' ∨ c = '\r' ∨ c = '\t' then some ⟨done, .between⟩
  else if c = '[' then some (emit done .openArray)
  else if c = ']' then some (emit done .closeArray)
  else if c = '\x7b' then some (emit done .openObject)
  else if c = '\x7d' then some (emit done .closeObject)
  else if c = ':' then some (emit done .colon)
  else if c = ',' then some (emit done .comma)
  else if c = '"' then some ⟨done, .text []⟩
  else if c = 'n' then some ⟨done, .word ['u', 'l', 'l'] .null⟩
  else if c = 't' then some ⟨done, .word ['r', 'u', 'e'] (.bool true)⟩
  else if c = 'f' then some ⟨done, .word ['a', 'l', 's', 'e'] (.bool false)⟩
  else if c = '-' ∨ isDigit c then some ⟨done, .number [c]⟩
  else none

/-- The character that a one-letter escape denotes. -/
def short? (c : Char) : Option Char :=
  if c = '"' ∨ c = '\\' ∨ c = '/' then some c
  else if c = 'b' then some '\x08'
  else if c = 'f' then some '\x0c'
  else if c = 'n' then some '\n'
  else if c = 'r' then some '\r'
  else if c = 't' then some '\t'
  else none

/-- One more character. -/
def step (l : Lexer) (c : Char) : Option Lexer :=
  match l.scan with
  | .between => fresh l.done c
  | .word [] _ => none
  | .word [last] t => if c = last then some (emit l.done t) else none
  | .word (next :: rest) t => if c = next then some ⟨l.done, .word rest t⟩ else none
  | .number seen =>
    if isNumberChar c then some ⟨l.done, .number (c :: seen)⟩
    else (Numeral.ofChars? seen.reverse).bind fun n => fresh (.number n :: l.done) c
  | .text seen =>
    if c = '"' then some (emit l.done (.text seen.reverse))
    else if c = '\\' then some ⟨l.done, .escape seen⟩
    else if c.toNat < 32 then none
    else some ⟨l.done, .text (.char c :: seen)⟩
  | .escape seen =>
    if c = 'u' then some ⟨l.done, .unit seen 4 0⟩
    else (short? c).map fun d => ⟨l.done, .text (.char d :: seen)⟩
  | .unit seen left value =>
    (Text.Hex.value? c).bind fun d =>
      let value := 16 * value + d
      match left with
      | 0 => none
      | 1 => some ⟨l.done, .text (.unit value :: seen)⟩
      | left + 1 => some ⟨l.done, .unit seen left value⟩

/-- The end of the text: every token has to be complete. -/
def finish (l : Lexer) : Option (List Token) :=
  match l.scan with
  | .between => some l.done.reverse
  | .number seen => (Numeral.ofChars? seen.reverse).map fun n => (.number n :: l.done).reverse
  | _ => none

end Lexer

/-- The tokens of a text, if it consists of tokens and white space. -/
def tokens? (cs : List Char) : Option (List Token) :=
  (cs.foldlM Lexer.step Lexer.start).bind Lexer.finish

end EpubAccess.Json
