import SqlMapper.Value.Formatting
/-!
# SqlMapper.Value.Arithmetic

The arithmetic of values. Integers are unbounded, a quotient is a float, and whole division and
remainder go to the floor. Texts, lists and tuples can be joined and repeated, and `%` fills a
text's placeholders. An absent value fails in any operation.
-/

namespace SqlMapper

/-- The arithmetic operators. -/
inductive ArithOp
  | add
  | sub
  | mul
  | div
  | floorDiv
  | mod
  | pow
  deriving Repr, DecidableEq

/-- How messages write an operator. -/
def ArithOp.sign : ArithOp → String
  | .add => "+"
  | .sub => "-"
  | .mul => "*"
  | .div => "/"
  | .floorDiv => "//"
  | .mod => "%"
  | .pow => "** or pow()"

namespace Value

/-- Arithmetic on integers. -/
def integerArith (op : ArithOp) (a b : Int) : Result Value :=
  match op with
  | .add => .ok (int (a + b))
  | .sub => .ok (int (a - b))
  | .mul => .ok (int (a * b))
  | .div =>
    if b = 0 then .error (.divisionByZero "division by zero")
    else
      let x := Number.nearest ((a < 0) != (b < 0)) a.natAbs b.natAbs
      if x.isFinite then .ok (float x)
      else .error (.other .overflow "integer division result too large for a float")
  | .floorDiv =>
    if b = 0 then .error (.divisionByZero "integer division or modulo by zero")
    else .ok (int (a.fdiv b))
  | .mod =>
    if b = 0 then .error (.divisionByZero "integer modulo by zero") else .ok (int (a.fmod b))
  | .pow =>
    if 0 ≤ b then .ok (int (Int.pow a b.toNat))
    else if a = 0 then .error (.divisionByZero "0.0 cannot be raised to a negative power")
    else do return float (Float.pow (← floatOfInt a) (← floatOfInt b))

/-- Arithmetic on floats. -/
def floatArith (op : ArithOp) (x y : Float) : Result Value :=
  match op with
  | .add => .ok (float (x + y))
  | .sub => .ok (float (x - y))
  | .mul => .ok (float (x * y))
  | .div =>
    if y == 0.0 then .error (.divisionByZero "float division by zero") else .ok (float (x / y))
  | .floorDiv =>
    if y == 0.0 then .error (.divisionByZero "float floor division by zero")
    else .ok (float (Number.floorDivMod x y).1)
  | .mod =>
    if y == 0.0 then .error (.divisionByZero "float modulo")
    else .ok (float (Number.floorDivMod x y).2)
  | .pow =>
    if x == 0.0 && y < 0.0 then
      .error (.divisionByZero "0.0 cannot be raised to a negative power")
    else
      let z := Float.pow x y
      if z.isInf && x.isFinite && y.isFinite then
        .error (.other .overflow "(34, 'Numerical result out of range')")
      else .ok (float z)

/-- Arithmetic on two numbers. -/
def numericArith (op : ArithOp) : Numeric → Numeric → Result Value
  | .int a, .int b => integerArith op a b
  | .int a, .float y => do floatArith op (← floatOfInt a) y
  | .float x, .int b => do floatArith op x (← floatOfInt b)
  | .float x, .float y => floatArith op x y

/-- A value as a count of repetitions. -/
def count? : Value → Option Nat
  | bool b => some (if b then 1 else 0)
  | int n => some n.toNat
  | _ => none

/-- A sequence repeated. -/
def repeated? (n : Nat) : Value → Option Value
  | str s | sql s => some (str (String.join (List.replicate n s)))
  | bytes bs => some (bytes (List.replicate n bs).flatten)
  | list xs => some (list (List.replicate n xs).flatten)
  | tuple xs => some (tuple (List.replicate n xs).flatten)
  | _ => none

/-- Can a value be repeated? -/
def isSequence (v : Value) : Bool := (v.repeated? 0).isSome

/-- Join two sequences, or repeat one, or take sets apart: what the operators mean when not both
operands are numbers. -/
def sequenceArith (op : ArithOp) (a b : Value) : Result Value :=
  let unsupported : Result Value := .error (.operands op.sign a.typeName b.typeName)
  match op with
  | .add =>
    match a, b with
    | str s, b | sql s, b =>
      match b.text? with
      | some t => .ok (str (s ++ t))
      | none => .error (.concatenation "str" b.typeName)
    | bytes s, bytes t => .ok (bytes (s ++ t))
    | bytes _, b => .error (.other .type ("can't concat " ++ b.typeName ++ " to bytes"))
    | list xs, list ys => .ok (list (xs ++ ys))
    | list _, b => .error (.concatenation "list" b.typeName)
    | tuple xs, tuple ys => .ok (tuple (xs ++ ys))
    | tuple _, b => .error (.concatenation "tuple" b.typeName)
    | _, _ => unsupported
  | .mul =>
    if a.isSequence then
      match b.count? with
      | some n => .ok ((a.repeated? n).getD a)
      | none => .error (.repetition b.typeName)
    else if b.isSequence then
      match a.count? with
      | some n => .ok ((b.repeated? n).getD b)
      | none => .error (.repetition a.typeName)
    else unsupported
  | .sub =>
    match a, b with
    | set frozen xs, set _ ys => .ok (set frozen (xs.filter fun x => !ys.any (sameKey x)))
    | _, _ => unsupported
  | .mod =>
    match a with
    | str s | sql s => do return str (← Formatting.format s b)
    | _ => unsupported
  | _ => unsupported

/-- The value of an arithmetic operation. -/
def arith (op : ArithOp) (a b : Value) : Result Value :=
  match a, b with
  | absent _ why, _ => .error (.missing why)
  | a, b =>
    match a.numeric?, b.numeric? with
    | some x, some y => numericArith op x y
    | _, _ =>
      match op, a.text?, b with
      | .mod, some _, b => sequenceArith op a b
      | _, _, absent _ why => .error (.missing why)
      | _, _, b => sequenceArith op a b

/-- A number with its sign changed. -/
def negate : Value → Result Value
  | absent _ why => .error (.missing why)
  | v =>
    match v.numeric? with
    | some (.int n) => .ok (int (-n))
    | some (.float x) => .ok (float (-x))
    | none => .error (.operand "unary -" v.typeName)

/-- A number as it is. -/
def posit : Value → Result Value
  | absent _ why => .error (.missing why)
  | v =>
    match v.numeric? with
    | some (.int n) => .ok (int n)
    | some (.float x) => .ok (float x)
    | none => .error (.operand "unary +" v.typeName)

end Value
end SqlMapper
