import SqlMapper.Value.Basic
/-!
# SqlMapper.Value.Failure

What can go wrong when values are combined, by cause, and the wording of each cause in one function
(`Failure.message`). A reader of failures needs only `Failure.family`: whether a value was missing,
the template itself was at fault, or an operation did not fit its operands.
-/

namespace SqlMapper

/-- The families of failures. -/
inductive Family
  /-- A value was used that is not there. -/
  | missing
  /-- The template asks for something that does not exist. -/
  | template
  | type
  | value
  | overflow
  | zeroDivision
  | attribute
  | key
  | index
  | recursion
  /-- An operation at run time, outside the template language, went wrong. -/
  | runtime
  /-- What is asked about is no entity class. -/
  | inspection
  deriving Repr, DecidableEq

/-- Causes of failure. -/
inductive Failure
  | missing (why : Missing)
  /-- A template asks for something that does not exist, in words. -/
  | template (reason : String)
  /-- A binary operator does not know its operands' types. -/
  | operands (op left right : String)
  /-- A unary operator does not know its operand's type. -/
  | operand (op type : String)
  /-- Two types have no order. -/
  | unordered (op left right : String)
  | notIterable (type : String)
  /-- A type cannot be searched with `in`. -/
  | notContainer (type : String)
  | noLength (type : String)
  | notCallable (type : String)
  | notInteger (type : String)
  | unhashable (type : String)
  /-- Only a sequence of the same type can be appended. -/
  | concatenation (type other : String)
  /-- A sequence is repeated by something that is no integer. -/
  | repetition (type : String)
  | divisionByZero (wording : String)
  | integerTooLarge
  /-- An infinity or a NaN has no integer value. -/
  | noIntegerValue (x : String)
  /-- A text is no integer. -/
  | badInteger (quoted : String)
  /-- A text is no number. -/
  | badFloat (quoted : String)
  /-- More digits than are converted between text and integer; the count is known when reading. -/
  | tooManyDigits (count : Option Nat)
  /-- What is asked about, here by its type's full name, is no entity class. -/
  | noInspection (type : String)
  /-- Any other failure of a family, in words. -/
  | other (family : Family) (reason : String)
  deriving Repr, DecidableEq

namespace Failure

/-- The family of a failure. -/
def family : Failure → Family
  | missing _ => .missing
  | template _ => .template
  | operands .. | operand .. | unordered .. | notIterable _ | notContainer _ | noLength _
  | notCallable _ | notInteger _ | unhashable _ | concatenation .. | repetition _ => .type
  | divisionByZero _ => .zeroDivision
  | integerTooLarge => .overflow
  | noIntegerValue x => if x = "nan" then .value else .overflow
  | badInteger _ | badFloat _ | tooManyDigits _ => .value
  | noInspection _ => .inspection
  | other f _ => f

/-- The wording of a failure. -/
def message : Failure → String
  | missing why => why.message
  | template reason => reason
  | operands op left right =>
    "unsupported operand type(s) for " ++ op ++ ": '" ++ left ++ "' and '" ++ right ++ "'"
  | operand op type => "bad operand type for " ++ op ++ ": '" ++ type ++ "'"
  | unordered op left right =>
    "'" ++ op ++ "' not supported between instances of '" ++ left ++ "' and '" ++ right ++ "'"
  | notIterable type => "'" ++ type ++ "' object is not iterable"
  | notContainer type => "argument of type '" ++ type ++ "' is not iterable"
  | noLength type => "object of type '" ++ type ++ "' has no len()"
  | notCallable type => "'" ++ type ++ "' object is not callable"
  | notInteger type => "'" ++ type ++ "' object cannot be interpreted as an integer"
  | unhashable type => "unhashable type: '" ++ type ++ "'"
  | concatenation type wrong =>
    "can only concatenate " ++ type ++ " (not \"" ++ wrong ++ "\") to " ++ type
  | repetition type => "can't multiply sequence by non-int of type '" ++ type ++ "'"
  | divisionByZero wording => wording
  | integerTooLarge => "int too large to convert to float"
  | noIntegerValue x =>
    if x = "nan" then "cannot convert float NaN to integer"
    else "cannot convert float infinity to integer"
  | badInteger quoted => "invalid literal for int() with base 10: " ++ quoted
  | badFloat quoted => "could not convert string to float: " ++ quoted
  | tooManyDigits count =>
    "Exceeds the limit (4300 digits) for integer string conversion" ++
      (match count with
        | some n => ": value has " ++ toString n ++ " digits"
        | none => "") ++
      "; use sys.set_int_max_str_digits() to increase the limit"
  | noInspection type =>
    "No inspection system is available for object of type <class '" ++ type ++ "'>"
  | other _ reason => reason

end Failure

/-- The outcome of an operation on values. -/
abbrev Result := Except Failure

end SqlMapper
