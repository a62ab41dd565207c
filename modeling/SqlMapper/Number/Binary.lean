/-!
# SqlMapper.Number.Binary

Floating-point numbers as exact quantities: what a float is worth (`FloatShape.ofFloat`), and the
float nearest to a given fraction (`nearest`). Reading a decimal, dividing two integers and
rounding to a number of places all go through `nearest`, so that each of them rounds once.
-/

namespace SqlMapper.Number

/-- A power of two. -/
abbrev twoTo (n : Nat) : Nat := Nat.pow 2 n

/-- A power of ten. -/
abbrev tenTo (n : Nat) : Nat := Nat.pow 10 n


/-- What a float stands for: the finite ones are `±mantissa · 2 ^ exponent`. -/
inductive FloatShape
  | nan
  | infinite (negative : Bool)
  | finite (negative : Bool) (mantissa : Nat) (exponent : Int)
  deriving Repr, DecidableEq

/-- Take a float apart. -/
def FloatShape.ofFloat (x : Float) : FloatShape :=
  let bits := x.toBits.toNat
  let negative := twoTo 63 ≤ bits
  let field : Nat := bits / twoTo 52 % 2048
  let fraction : Nat := bits % twoTo 52
  if field = 2047 then
    if fraction = 0 then .infinite negative else .nan
  else if field = 0 then .finite negative fraction (-1074)
  else .finite negative (fraction + twoTo 52) ((field : Int) - 1075)

/-- The quotient rounded to the nearest natural number, a tie going to the even one. -/
def roundHalfEven (num den : Nat) : Nat :=
  let q := num / den
  let r := num % den
  if 2 * r < den then q
  else if 2 * r = den then q + q % 2
  else q + 1

@[simp] theorem roundHalfEven_one (n : Nat) : roundHalfEven n 1 = n := by
  simp [roundHalfEven, Nat.mod_one]

/-- The exponent of the last binary place that a float near `num / den` has. -/
def lastPlace (num den : Nat) : Int :=
  let guess : Int := Nat.log2 num - Nat.log2 den - 52
  let scaled (e : Int) : Nat := num * twoTo (-e).toNat / (den * twoTo e.toNat)
  let e := if scaled guess < twoTo 52 then guess - 1 else guess
  max e (-1074)

/-- The bits, sign apart, of the float nearest to `num / den`, a tie going to the even one. The
carry of a mantissa that rounds up to a power of two falls into the exponent field by itself. -/
def nearestBits (num den : Nat) : Nat :=
  if num = 0 ∨ den = 0 then 0
  else
    let e := lastPlace num den
    let mantissa := roundHalfEven (num * twoTo (-e).toNat) (den * twoTo e.toNat)
    min ((e + 1074).toNat * twoTo 52 + mantissa) (2047 * twoTo 52)

/-- The float nearest to `±num / den`; beyond the largest finite float it is infinite. -/
def nearest (negative : Bool) (num den : Nat) : Float :=
  Float.ofBits (.ofNat (nearestBits num den + if negative then twoTo 63 else 0))

/-- The float nearest to an integer, if that float is finite. -/
def ofInt? (n : Int) : Option Float :=
  let x := nearest (n < 0) n.natAbs 1
  if x.isFinite then some x else none

/-- A float without its fractional part. -/
def truncate? (x : Float) : Option Int :=
  match FloatShape.ofFloat x with
  | .finite negative m e =>
    let n : Nat := m * twoTo e.toNat / twoTo (-e).toNat
    some (if negative then -n else n)
  | _ => none

/-- A float whose value is an integer. -/
def exactInt? (x : Float) : Option Int :=
  match FloatShape.ofFloat x with
  | .finite negative m e =>
    let den := twoTo (-e).toNat
    let num := m * twoTo e.toNat
    if num % den = 0 then some (if negative then -(num / den : Nat) else (num / den : Nat)) else none
  | _ => none

/-- Compare an integer with a float exactly; nothing for a NaN. -/
def compareIntFloat (n : Int) (x : Float) : Option Ordering :=
  match FloatShape.ofFloat x with
  | .nan => none
  | .infinite negative => some (if negative then .gt else .lt)
  | .finite negative m e =>
    let num : Int := m * twoTo e.toNat
    some (compare (n * twoTo (-e).toNat) (if negative then -num else num))

/-- Remainder of a float division with the sign of the divisor, and the floor of the quotient, both
from exact values. The divisor is not zero. -/
def floorDivMod (x y : Float) : Float × Float :=
  match FloatShape.ofFloat x, FloatShape.ofFloat y with
  | .finite nx mx ex, .finite ny my ey =>
    let low := min ex ey
    let a : Int := (mx * twoTo (ex - low).toNat : Nat)
    let b : Int := (my * twoTo (ey - low).toNat : Nat)
    let a := if nx then -a else a
    let b := if ny then -b else b
    let q := a.fdiv b
    let r := a.fmod b
    let quotient :=
      if q = 0 then (if nx != ny then -0.0 else 0.0) else nearest (q < 0) q.natAbs 1
    let remainder :=
      if r = 0 then (if ny then -0.0 else 0.0)
      else nearest (r < 0) (r.natAbs * twoTo low.toNat) (twoTo (-low).toNat)
    (quotient, remainder)
  | .finite nx mx _, .infinite ny =>
    if mx = 0 || nx == ny then (if nx != ny then -0.0 else 0.0, x) else (-1.0, y)
  | _, _ => (0.0 / 0.0, 0.0 / 0.0)

end SqlMapper.Number
