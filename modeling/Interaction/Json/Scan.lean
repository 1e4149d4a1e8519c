import Interaction.Number.Binary64
import Interaction.Unicode.Blank
import Interaction.Unicode.Utf8

/-! # Scanning JSON

The parts of a JSON text, each read from the front of a list of characters. What is wrong with a
text has one of three causes, and the first flaw from the left counts. -/

namespace Interaction.Json

/-- Why a text cannot be read: it ends too early, it holds another shape of value than is wanted,
or it is no JSON. -/
inductive Flaw where
  | truncated
  | misshapen
  | malformed
deriving DecidableEq, Repr

/-- Reads an `α` from the front of a text. -/
abbrev Reader (α : Type) := List Char → Except Flaw (α × List Char)

def skipBlanks (s : List Char) : List Char := s.dropWhile isBlank

/-- The rest of the word `w`. -/
def skipWord : List Char → List Char → Except Flaw (List Char)
  | [], s => .ok s
  | _ :: _, [] => .error .truncated
  | c :: w, d :: s => if c = d then skipWord w s else .error .malformed

/-! ## Strings -/

/-- The value of a hexadecimal digit. -/
def hexDigit? (c : Char) : Option Nat :=
  if c.isDigit then some (c.toNat - '0'.toNat)
  else if 'a' ≤ c ∧ c ≤ 'f' then some (c.toNat - 'a'.toNat + 10)
  else if 'A' ≤ c ∧ c ≤ 'F' then some (c.toNat - 'A'.toNat + 10)
  else none

/-- Four hexadecimal digits. A text with less than four bytes left ends too early. -/
def hexQuad (s : List Char) : Except Flaw (Nat × List Char) :=
  match s with
  | a :: b :: c :: d :: r =>
    match hexDigit? a, hexDigit? b, hexDigit? c, hexDigit? d with
    | some a, some b, some c, some d => .ok (((a * 16 + b) * 16 + c) * 16 + d, r)
    | _, _, _, _ => .error .malformed
  | s => if utf8Length s < 4 then .error .truncated else .error .malformed

/-- The character of an escape with a letter. -/
def letterEscape? : Char → Option Char
  | '"' => some '"'
  | '\\' => some '\\'
  | '/' => some '/'
  | 'b' => some '\x08'
  | 'f' => some '\x0c'
  | 'n' => some '\n'
  | 'r' => some '\r'
  | 't' => some '\t'
  | _ => none

/-- The low half of a character whose high half is `high`, and that character. -/
def lowHalf (high : Nat) : Reader Char
  | [] => .error .truncated
  | '\\' :: [] => .error .truncated
  | '\\' :: 'u' :: s => do
    let (low, r) ← hexQuad s
    if 0xDC00 ≤ low ∧ low ≤ 0xDFFF then
      .ok (Char.ofNat (0x10000 + (high - 0xD800) * 0x400 + (low - 0xDC00)), r)
    else .error .malformed
  | _ => .error .malformed

/-- The character of an escape, behind its backslash. Halves of characters come in pairs. -/
def escaped : Reader Char
  | [] => .error .truncated
  | 'u' :: s => do
    let (n, r) ← hexQuad s
    if 0xDC00 ≤ n ∧ n ≤ 0xDFFF then .error .malformed
    else if 0xD800 ≤ n ∧ n ≤ 0xDBFF then lowHalf n r
    else .ok (Char.ofNat n, r)
  | c :: s =>
    match letterEscape? c with
    | some d => .ok (d, s)
    | none => .error .malformed

/-- The characters of a string up to its closing quote, no more than `clock` is long. -/
def stringWithin : List Char → Reader (List Char)
  | [], _ => .error .truncated
  | _ :: clock, s =>
    match s with
    | [] => .error .truncated
    | '"' :: r => .ok ([], r)
    | '\\' :: r => do
      let (c, r) ← escaped r
      let (cs, r) ← stringWithin clock r
      .ok (c :: cs, r)
    | c :: r => do
      if c.toNat < 0x20 then .error .malformed
      let (cs, r) ← stringWithin clock r
      .ok (c :: cs, r)

/-- The characters of a string up to its closing quote, which is read too. -/
def stringRest : Reader (List Char) := fun s => stringWithin s s

/-- Behind an escape whose character does not matter, from behind its backslash. -/
def skipEscape : List Char → Except Flaw (List Char)
  | [] => .error .truncated
  | 'u' :: r => (hexQuad r).map (·.2)
  | c :: r => if (letterEscape? c).isSome then .ok r else .error .malformed

/-- Behind the closing quote of a string of no more characters than `clock`. -/
def skipStringWithin : List Char → List Char → Except Flaw (List Char)
  | [], _ => .error .truncated
  | _ :: clock, s =>
    match s with
    | [] => .error .truncated
    | '"' :: r => .ok r
    | '\\' :: r => skipEscape r >>= skipStringWithin clock
    | c :: r => if c.toNat < 0x20 then .error .malformed else skipStringWithin clock r

/-- Behind the closing quote of a string whose characters do not matter. -/
def skipString (s : List Char) : Except Flaw (List Char) := skipStringWithin s s

/-! ## Numbers -/

/-- Significands are collected as long as they fit into 64 bits. -/
def significandBound : Nat := 1 <<< 64

/-- The digits of `ds` behind the significand `m`, as long as it fits, and how many did not. -/
def collect : Nat → List Char → Nat × Nat
  | m, [] => (m, 0)
  | m, d :: ds =>
    let m' := 10 * m + (d.toNat - '0'.toNat)
    if m' < significandBound then collect m' ds else (m, ds.length + 1)

/-- The digits at the front of a text. Without one, the text ends too early or is malformed. -/
def someDigits (s : List Char) : Except Flaw (List Char × List Char) :=
  match s with
  | [] => .error .truncated
  | c :: _ =>
    if c.isDigit then .ok (s.takeWhile Char.isDigit, s.dropWhile Char.isDigit)
    else .error .malformed

/-- The digits of the integer part. A zero stands alone. -/
def integerDigits (s : List Char) : Except Flaw (List Char × List Char) :=
  match s with
  | '0' :: c :: _ => if c.isDigit then .error .malformed else someDigits s
  | _ => someDigits s

/-- The digits behind the point, if there is a point. -/
def fractionDigits : Reader (List Char)
  | '.' :: s => someDigits s
  | s => .ok ([], s)

/-- The exponent behind `e`, if there is one. -/
def exponentPart (s : List Char) : Except Flaw (Int × List Char) :=
  match s with
  | c :: r =>
    if c = 'e' ∨ c = 'E' then do
      let (negative, r) := match r with
        | '+' :: r => (false, r)
        | '-' :: r => (true, r)
        | r => (false, r)
      let (ds, r) ← someDigits r
      let n : Nat := Nat.ofDigitChars 10 ds 0
      .ok (if negative then -n else n, r)
    else .ok (0, s)
  | [] => .ok (0, [])

/-- A power of ten up to `10 ^ 308`. -/
def powerOfTen (k : Nat) : Binary64 := .ofNat (Nat.pow 10 k)

/-- The number divided by `10 ^ k`, in steps of at most `10 ^ 308`. -/
def scaleDown (x : Binary64) (k : Nat) : Binary64 :=
  if k ≤ 308 then (x.div? (powerOfTen k)).getD x
  else if x.significand = 0 then x
  else scaleDown ((x.div? (powerOfTen 308)).getD x) (k - 308)
termination_by k

/-- The number `± m * 10 ^ e`, unless it is out of range. The significand is rounded first and the
product once more. -/
def scaled? (negative : Bool) (m : Nat) (e : Int) : Option Binary64 := do
  let x ← Binary64.ofRatio? negative m 1
  if e < 0 then some (scaleDown x e.natAbs)
  else if e ≤ 308 then x.mul? (powerOfTen e.natAbs)
  else if m = 0 then some x
  else none

/-- A number, from its sign or first digit on. -/
def scanNumber (s : List Char) : Except Flaw (Binary64 × List Char) := do
  let (negative, s) := match s with
    | '-' :: r => (true, r)
    | s => (false, s)
  let (whole, s) ← integerDigits s
  let (fraction, s) ← fractionDigits s
  let (e, s) ← exponentPart s
  let (m, beyond) := collect 0 whole
  let (m, unread) := collect m fraction
  match scaled? negative m (beyond - (fraction.length - unread : Nat) + e) with
  | some x => .ok (x, s)
  | none => .error .malformed

/-- Behind a number whose value does not matter. An early end is malformed here. -/
def skipNumber (s : List Char) : Except Flaw (List Char) :=
  let s := match s with
    | '-' :: r => r
    | s => s
  let parts : Except Flaw (List Char) := do
    let (_, s) ← integerDigits s
    let (_, s) ← fractionDigits s
    let (_, s) ← exponentPart s
    .ok s
  parts.mapError fun _ => .malformed

/-! ## Values that are skipped -/

/-- The brackets that a value can be in. -/
inductive Bracket where
  | square
  | curly
deriving DecidableEq, Repr

def Bracket.closing : Bracket → Char
  | .square => ']'
  | .curly => '\x7d'

def startsNumber (c : Char) : Bool := c == '-' || c.isDigit

/-- Behind a value without parts. -/
def skipScalar (s : List Char) : Except Flaw (List Char) :=
  match s with
  | 'n' :: r => skipWord "ull".toList r
  | 't' :: r => skipWord "rue".toList r
  | 'f' :: r => skipWord "alse".toList r
  | '"' :: r => skipString r
  | c :: r => if startsNumber c then skipNumber (c :: r) else .error .malformed
  | [] => .error .truncated

/-- Behind the key of a member and its colon. -/
def skipKey (s : List Char) : Except Flaw (List Char) :=
  match skipBlanks s with
  | [] => .error .truncated
  | '"' :: r => do
    let r ← skipString r
    match skipBlanks r with
    | [] => .error .truncated
    | ':' :: r => .ok r
    | _ => .error .malformed
  | _ => .error .malformed

/-- From behind a value to the next one, closing brackets on the way. The brackets that remain are
those of the next value; without any, there is none. -/
def nextValue : List Bracket → List Char → Except Flaw (List Bracket × List Char)
  | [], s => .ok ([], s)
  | b :: bs, s =>
    match skipBlanks s with
    | [] => .error .truncated
    | c :: r =>
      if c = ',' then
        match b with
        | .square => .ok (b :: bs, r)
        | .curly => (skipKey r).map (b :: bs, ·)
      else if c = b.closing then nextValue bs r
      else .error .malformed

/-- From a value inside `brackets`, the innermost first, to the next one. -/
def skipStep (brackets : List Bracket) (s : List Char) : Except Flaw (List Bracket × List Char) :=
  match skipBlanks s with
  | '[' :: r =>
    match skipBlanks r with
    | ']' :: r => nextValue brackets r
    | r => .ok (.square :: brackets, r)
  | '\x7b' :: r =>
    match skipBlanks r with
    | '\x7d' :: r => nextValue brackets r
    | r => (skipKey r).map (.curly :: brackets, ·)
  | r => skipScalar r >>= nextValue brackets

/-- Behind the outermost of `brackets`, with a value inside the innermost to come and no more values
than `clock` has entries. However deep the value is, the brackets are all that is kept of it. -/
def skipWithin : List Char → List Bracket → List Char → Except Flaw (List Char)
  | [], _, _ => .error .truncated
  | _ :: clock, brackets, s =>
    match skipStep brackets s with
    | .error e => .error e
    | .ok ([], r) => .ok r
    | .ok (b :: bs, r) => skipWithin clock (b :: bs) r

/-- Behind a value of any shape. -/
def skipValue (s : List Char) : Except Flaw (List Char) := skipWithin s [] s

end Interaction.Json
