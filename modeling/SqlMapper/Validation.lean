import SqlMapper.Value.Display
import SqlMapper.Text.Search
/-!
# SqlMapper.Validation

Values brought to the type of a field. Validation is lenient: a text that denotes an integer is one,
and so is a float without a fraction. What cannot be brought to the type is reported with the way to
the field (`Issue`).
-/

namespace SqlMapper.Validation

/-- What is wrong with a value. -/
inductive Complaint
  | missing
  | notInteger
  | notIntegerText
  | fractional
  | notFinite
  | integerTooLong
  | notText
  | notTextBytes
  | textTooLong (limit : Nat)
  | notList
  | notBool
  | notBoolText
  | notNumber
  | notNumberText
  /-- The value is below the least one allowed. -/
  | below (least : Int)
  /-- The value does not exceed a bound. -/
  | notAbove (bound : Int)
  deriving Repr, DecidableEq

namespace Complaint

/-- The short name of a complaint. -/
def code : Complaint → String
  | missing => "missing"
  | notInteger => "int_type"
  | notIntegerText => "int_parsing"
  | fractional => "int_from_float"
  | notFinite => "finite_number"
  | integerTooLong => "int_parsing_size"
  | notText => "string_type"
  | notTextBytes => "string_unicode"
  | textTooLong _ => "string_too_long"
  | notList => "list_type"
  | notBool => "bool_type"
  | notBoolText => "bool_parsing"
  | notNumber => "float_type"
  | notNumberText => "float_parsing"
  | below _ => "greater_than_equal"
  | notAbove _ => "greater_than"

/-- The wording of a complaint. -/
def message : Complaint → String
  | missing => "Field required"
  | notInteger => "Input should be a valid integer"
  | notIntegerText =>
    "Input should be a valid integer, unable to parse string as an integer"
  | fractional => "Input should be a valid integer, got a number with a fractional part"
  | notFinite => "Input should be a finite number"
  | integerTooLong => "Unable to parse input string as an integer, exceeded maximum size"
  | notText => "Input should be a valid string"
  | notTextBytes =>
    "Input should be a valid string, unable to parse raw data as a unicode string"
  | textTooLong n =>
    "String should have at most " ++ toString n ++ (if n = 1 then " character" else " characters")
  | notList => "Input should be a valid list"
  | notBool => "Input should be a valid boolean"
  | notBoolText => "Input should be a valid boolean, unable to interpret input"
  | notNumber => "Input should be a valid number"
  | notNumberText => "Input should be a valid number, unable to parse string as a number"
  | below n => "Input should be greater than or equal to " ++ toString n
  | notAbove n => "Input should be greater than " ++ toString n

end Complaint

/-- A step on the way to a value. -/
inductive Step
  | key (name : String)
  | index (i : Nat)
  deriving Repr, DecidableEq

/-- A complaint about the value at the end of a way. -/
structure Issue where
  path : List Step
  complaint : Complaint
  deriving Repr, DecidableEq

/-- The outcome of validating one value. -/
abbrev Checked (α : Type) := Except Complaint α

/-! ### Integers -/

/-- A text without the zeros at its front. One that does not begin like a number is refused. -/
def dropLeadingZeros : List Char → Option (List Char)
  | [] => none
  | '0' :: cs => some (more '0' cs)
  | c :: cs => if c.isDigit || c == '-' then some (c :: cs) else none
where
  /-- The rest after zeros and underscores, the last of which is kept before a point or the end. -/
  more (last : Char) : List Char → List Char
  | [] => [last]
  | c :: cs =>
    if c == '0' || c == '_' then more c cs
    else if c == '.' then last :: c :: cs
    else c :: cs

/-- A text without a point that only zeros follow. -/
def dropEmptyFraction (cs : List Char) : List Char :=
  match cs.dropWhile (· != '.') with
  | '.' :: zeros => if zeros.all (· == '0') then cs.takeWhile (· != '.') else cs
  | _ => cs

/-- A text without single underscores between other characters. -/
def dropUnderscores (cs : List Char) : List Char :=
  let pieces := Text.splitAt ['_'] none cs
  if pieces.any List.isEmpty then cs else pieces.flatten

/-- The integer that a text denotes. -/
def integerOfText (cs : List Char) : Checked Int :=
  let body := Number.trimNumber cs
  let body := match body with
    | '+' :: rest => if rest.head? == some '-' then [] else rest
    | body => body
  match dropLeadingZeros body with
  | none => .error .notIntegerText
  | some body =>
    let body := dropUnderscores (dropEmptyFraction body)
    let (negative, digits) := match body with
      | '-' :: rest => (true, rest)
      | body => (false, body)
    if digits.isEmpty || !digits.all Char.isDigit ||
        (digits.head? == some '0' && 1 < digits.length) then .error .notIntegerText
    else if Number.digitLimit < digits.length then .error .integerTooLong
    else
      let n : Int := Number.valueOfDigits 10 (digits.map fun c => c.toNat - 48)
      .ok (if negative then -n else n)

/-- The text of bytes in UTF-8. -/
def textOfBytes? (bs : List UInt8) : Option String := String.fromUTF8? ⟨bs.toArray⟩

/-- An integer. -/
def integer (v : Value) : Checked Int :=
  match v with
  | .int n => .ok n
  | .bool b => .ok (if b then 1 else 0)
  | .float x =>
    match Number.truncate? x with
    | none => .error .notFinite
    | some n =>
      if !(Number.ofInt? n).any (· == x) then .error .fractional
      else if n.natAbs < Number.twoTo 63 then .ok n
      else .error .integerTooLong
  | .str s | .sql s => integerOfText s.toList
  | .bytes bs =>
    match textOfBytes? bs with
    | some s => integerOfText s.toList
    | none => .error .notIntegerText
  | _ => .error .notInteger

/-- An integer that is at least as large as a given one. -/
def integerFrom (least : Int) (v : Value) : Checked Int := do
  let n ← integer v
  if n < least then throw (.below least)
  return n

/-! ### Other types -/

/-- A text, of limited length if a limit is given. -/
def text (limit : Option Nat) (v : Value) : Checked String := do
  let s ← match v with
    | .str s | .sql s => .ok s
    | .bytes bs =>
      match textOfBytes? bs with
      | some s => .ok s
      | none => .error .notTextBytes
    | _ => .error .notText
  match limit with
  | some n => if n < s.length then throw (.textTooLong n)
  | none => pure ()
  return s

/-- A list. -/
def list (v : Value) : Checked (List Value) :=
  match v with
  | .list xs | .tuple xs | .set _ xs => .ok xs
  | .view .keys es => .ok (es.map (·.1))
  | .view .values es => .ok (es.map (·.2))
  | .view .items es => .ok (es.map fun (k, x) => .tuple [k, x])
  | _ => .error .notList

/-- The truth value that a word stands for. -/
def boolOfText (s : String) : Checked Bool :=
  let word := s.toLower
  if ["0", "off", "f", "false", "n", "no"].contains word then .ok false
  else if ["1", "on", "t", "true", "y", "yes"].contains word then .ok true
  else .error .notBoolText

/-- The number that a text denotes, above a bound if one is given. -/
def floatOfText (bound : Option Int) (s : String) : Checked Float := do
  match Number.readFloat? s.toList with
  | none => throw .notNumberText
  | some x =>
    match bound with
    | some n => if (Number.ofInt? n).any (x ≤ ·) then throw (.notAbove n)
    | none => pure ()
    return x

/-- A value that may be empty. -/
def optional {α : Type} (check : Value → Checked α) (v : Value) : Checked (Option α) :=
  match v with
  | .null => .ok none
  | v => some <$> check v

/-! ### Fields -/

/-- Check a field among named values: a field that is not given has its default or is missing. -/
def field {α : Type} (values : List (String × Value)) (name : String) (default : Option α)
    (check : Value → Checked α) : Except Issue α :=
  let outcome :=
    match values.lookup name, default with
    | some v, _ => check v
    | none, some d => .ok d
    | none, none => .error .missing
  match outcome with
  | .ok a => .ok a
  | .error c => .error ⟨[.key name], c⟩

/-- The issue of a checked field, if it has one. -/
def issue? {α : Type} : Except Issue α → List Issue
  | .ok _ => []
  | .error i => [i]

end SqlMapper.Validation
