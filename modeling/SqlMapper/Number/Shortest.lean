import SqlMapper.Number.Binary
/-!
# SqlMapper.Number.Shortest

The decimal text of a float: the fewest digits that read back as the same float, and of those the
nearest to its value. `shortest` finds the digits by exact arithmetic on the interval of reals that
round to the float; `text` lays them out.
-/

namespace SqlMapper.Number

/-- `digits · 10 ^ scale`. -/
structure Decimal where
  digits : Nat
  scale : Int
  deriving Repr, DecidableEq

/-- Number of decimal digits. -/
def digitCount (n : Nat) : Nat := (Nat.toDigits 10 n).length

/-- The interval of reals that round to a float, on a grid of quarter units in the last place, as
integers: `low`, `value` and `high` are multiples of `2 ^ (exponent - 2)`. -/
structure RoundingInterval where
  low : Nat
  value : Nat
  high : Nat
  exponent : Int
  /-- Do the ends round to the float? -/
  closed : Bool

/-- The interval of `mantissa · 2 ^ exponent`. Below a power of two the floats lie twice as dense. -/
def RoundingInterval.ofFloat (mantissa : Nat) (exponent : Int) : RoundingInterval where
  low := 4 * mantissa - if mantissa = twoTo 52 ∧ -1074 < exponent then 1 else 2
  value := 4 * mantissa
  high := 4 * mantissa + 2
  exponent := exponent - 2
  closed := mantissa % 2 = 0

/-- The best multiple of `10 ^ scale` inside the interval: of the value's two neighbours the nearer
one that lies inside, and the even one if both are as near. -/
def RoundingInterval.onGrid? (i : RoundingInterval) (scale : Int) : Option Nat :=
  let unit := tenTo scale.toNat * twoTo (-i.exponent).toNat
  let factor := twoTo i.exponent.toNat * tenTo (-scale).toNat
  let inside (c : Nat) : Bool :=
    if i.closed then i.low * factor ≤ c * unit && c * unit ≤ i.high * factor
    else i.low * factor < c * unit && c * unit < i.high * factor
  let below := i.value * factor / unit
  let above := below + 1
  let toBelow := i.value * factor - below * unit
  let toAbove := above * unit - i.value * factor
  match inside below && below != 0, inside above with
  | true, true =>
    some (if toBelow < toAbove then below
      else if toAbove < toBelow then above
      else if below % 2 = 0 then below else above)
  | true, false => some below
  | false, true => some above
  | false, false => none

/-- The position of the decimal point before the first digit: `10 ^ (p - 1) ≤ value < 10 ^ p`. -/
def pointOf (mantissa : Nat) (exponent : Int) : Int :=
  digitCount (mantissa * tenTo 330 * twoTo exponent.toNat / twoTo (-exponent).toNat) - 330

/-- The first grid, from coarse to fine, that has a point inside. -/
def searchGrids (i : RoundingInterval) (point : Int) : Nat → Nat → Decimal
  | 0, _ => ⟨0, 0⟩
  | fuel + 1, n =>
    match i.onGrid? (point - n) with
    | some c => ⟨c, point - n⟩
    | none => searchGrids i point fuel (n + 1)

/-- The shortest decimal of `mantissa · 2 ^ exponent`. Seventeen digits always suffice. -/
def shortest (mantissa : Nat) (exponent : Int) : Decimal :=
  searchGrids (.ofFloat mantissa exponent) (pointOf mantissa exponent) 17 1

/-- Digits without the zeros at their end. -/
def stripZeros (ds : List Char) : List Char := (ds.reverse.dropWhile (· == '0')).reverse

/-- An exponent of two digits at least, always signed. -/
def exponentText (e : Int) : String :=
  let digits := toString e.natAbs
  (if e < 0 then "-" else "+") ++ (if digits.length < 2 then "0" ++ digits else digits)

/-- Lay out a decimal. The point is written where it falls from `0.0001` up to `limit` digits before
it; outside that range there is one digit before the point, and an exponent. `pointed` says whether a
point is then written also if nothing follows it. -/
def Decimal.layOut (d : Decimal) (limit : Int) (pointed : Bool) : String :=
  let ds := stripZeros (Nat.toDigits 10 d.digits)
  let point : Int := digitCount d.digits + d.scale
  let n : Int := ds.length
  let s := String.ofList
  if point ≤ -4 ∨ limit < point then
    let mantissa := match ds with
      | [] => "0"
      | [c] => s (if pointed then [c, '.', '0'] else [c])
      | c :: cs => s (c :: '.' :: cs)
    mantissa ++ "e" ++ exponentText (point - 1)
  else if point ≤ 0 then "0." ++ s (List.replicate (-point).toNat '0' ++ ds)
  else if n ≤ point then s (ds ++ List.replicate (point - n).toNat '0') ++ ".0"
  else s (ds.take point.toNat ++ '.' :: ds.drop point.toNat)

/-- The text of a decimal: up to sixteen digits before the point. -/
def Decimal.text (d : Decimal) : String := d.layOut 16 false

/-- The decimal text of a float. -/
def text (x : Float) : String :=
  match FloatShape.ofFloat x with
  | .nan => "nan"
  | .infinite negative => if negative then "-inf" else "inf"
  | .finite negative m e =>
    (if negative then "-" else "") ++ if m = 0 then "0.0" else (shortest m e).text

/-- The nearest decimal of a number of significant digits, a tie going to the even digit. -/
def significant (mantissa : Nat) (exponent : Int) (digits : Nat) : Decimal :=
  let scale := pointOf mantissa exponent - digits
  ⟨roundHalfEven (mantissa * twoTo exponent.toNat * tenTo (-scale).toNat)
    (twoTo (-exponent).toNat * tenTo scale.toNat), scale⟩

/-- The text of a float with a number of significant digits. A zero has no sign. -/
def significantText (x : Float) (digits : Nat) : String :=
  match FloatShape.ofFloat x with
  | .nan => "nan"
  | .infinite negative => if negative then "-Inf" else "Inf"
  | .finite negative m e =>
    if m = 0 then "0.0"
    else (if negative then "-" else "") ++ (significant m e digits).layOut digits true

/-- The digits of `±mantissa · 2 ^ exponent` rounded to a number of places after the point, a tie
going to the even digit. -/
def fixedDigits (mantissa : Nat) (exponent : Int) (places : Nat) : Nat :=
  roundHalfEven (mantissa * twoTo exponent.toNat * tenTo places) (twoTo (-exponent).toNat)

/-- A float with a fixed number of places after the point. -/
def fixedText (x : Float) (places : Nat) : String :=
  match FloatShape.ofFloat x with
  | .nan => "nan"
  | .infinite negative => if negative then "-inf" else "inf"
  | .finite negative m e =>
    let ds := Nat.toDigits 10 (fixedDigits m e places)
    let ds := List.replicate (places + 1 - ds.length) '0' ++ ds
    let whole := ds.take (ds.length - places)
    (if negative then "-" else "") ++
      String.ofList (if places = 0 then whole else whole ++ '.' :: ds.drop whole.length)

/-- A float rounded to a number of places (before the point if negative), a tie going to the even
digit. -/
def roundTo (x : Float) (places : Int) : Float :=
  match FloatShape.ofFloat x with
  | .finite negative m e =>
    let digits := roundHalfEven (m * twoTo e.toNat * tenTo places.toNat)
      (twoTo (-e).toNat * tenTo (-places).toNat)
    nearest negative (digits * tenTo (-places).toNat) (tenTo places.toNat)
  | _ => x

end SqlMapper.Number
