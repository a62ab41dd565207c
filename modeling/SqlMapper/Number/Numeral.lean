import SqlMapper.Text.Blank
import SqlMapper.Text.Digit
import SqlMapper.Number.Binary
/-!
# SqlMapper.Number.Numeral

Reading numbers from text. An integer is a sign and decimal digits of any script; a decimal may have
a point and an exponent, or be one of the words for infinity and NaN. Blanks around the number are
skipped, and a single underscore may stand between two digits.
-/

namespace SqlMapper.Number

open SqlMapper.Text

/-- The blanks that may surround a number. The information separators do not count here. -/
def isNumberBlank (c : Char) : Bool := isBlank c && !(28 ≤ c.val && c.val ≤ 31)

/-- A text without the blanks around a number. -/
def trimNumber (cs : List Char) : List Char :=
  ((cs.dropWhile isNumberBlank).reverse.dropWhile isNumberBlank).reverse

/-- The digits' value, most significant digit first. -/
def valueOfDigits (base : Nat) (ds : List Nat) : Nat := ds.foldl (fun n d => n * base + d) 0

/-- Digits with single underscores between them, at least one digit. `afterDigit` says that a digit
stands just before, so that an underscore may follow. -/
def digitsFrom? (digit? : Char → Option Nat) (afterDigit : Bool) : List Char → Option (List Nat)
  | [] => if afterDigit then some [] else none
  | c :: cs =>
    if c == '_' then if afterDigit then digitsFrom? digit? false cs else none
    else match digit? c with
      | some d => (digitsFrom? digit? true cs).map (d :: ·)
      | none => none

/-- Split a sign off; the answer says whether the number is negative. -/
def splitSign : List Char → Bool × List Char
  | '-' :: cs => (true, cs)
  | '+' :: cs => (false, cs)
  | cs => (false, cs)

/-- The largest number of digits that is converted between text and integer. -/
def digitLimit : Nat := 4300

/-- What reading an integer can end in. -/
inductive IntReading
  | ok (n : Int)
  | malformed
  /-- More digits than `digitLimit`. -/
  | tooLong (digits : Nat)
  deriving Repr, DecidableEq

/-- Read an integer. -/
def readInt (cs : List Char) : IntReading :=
  let (negative, body) := splitSign (trimNumber cs)
  match digitsFrom? digitValue? false body with
  | none => .malformed
  | some ds =>
    if digitLimit < ds.length then .tooLong ds.length
    else
      let n : Int := valueOfDigits 10 ds
      .ok (if negative then -n else n)

/-- `mantissa · 10 ^ exponent` as the nearest float. Exponents that put the number far outside the
range of floats are decided by the number's size alone. -/
def ofScientific (negative : Bool) (mantissa : Nat) (exponent : Int) : Float :=
  let size : Int := (Nat.toDigits 10 mantissa).length + exponent
  if mantissa = 0 ∨ size < -400 then nearest negative 0 1
  else if 400 < size then (if negative then -1.0 / 0.0 else 1.0 / 0.0)
  else nearest negative (mantissa * tenTo exponent.toNat) (tenTo (-exponent).toNat)

/-- Digits that may be missing altogether. -/
def optionalDigits? (cs : List Char) : Option (List Nat) :=
  if cs.isEmpty then some [] else digitsFrom? digitValue? false cs

/-- The exponent part of a decimal, without its letter. -/
def exponent? (cs : List Char) : Option Int :=
  let (negative, body) := splitSign cs
  (digitsFrom? digitValue? false body).map fun ds =>
    let n : Int := valueOfDigits 10 ds
    if negative then -n else n

/-- Mantissa and exponent of an unsigned decimal. -/
def unsignedDecimal? (cs : List Char) : Option (Nat × Int) := do
  let isE (c : Char) : Bool := c == 'e' || c == 'E'
  let body := cs.takeWhile (!isE ·)
  let exponent ← match cs.dropWhile (!isE ·) with
    | [] => some 0
    | _ :: tail => exponent? tail
  let whole ← optionalDigits? (body.takeWhile (· != '.'))
  let fraction ← optionalDigits? ((body.dropWhile (· != '.')).drop 1)
  if whole.isEmpty && fraction.isEmpty then none
  else some (valueOfDigits 10 (whole ++ fraction), exponent - fraction.length)

/-- Read a float: a decimal, or one of the words `inf`, `infinity` and `nan` in any case. -/
def readFloat? (cs : List Char) : Option Float :=
  let (negative, body) := splitSign (trimNumber cs)
  let word := String.ofList (body.map Char.toLower)
  if word == "inf" || word == "infinity" then some (if negative then -1.0 / 0.0 else 1.0 / 0.0)
  else if word == "nan" then some (0.0 / 0.0)
  else (unsignedDecimal? body).map fun (m, e) => ofScientific negative m e

end SqlMapper.Number
