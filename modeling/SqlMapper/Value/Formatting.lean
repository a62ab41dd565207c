import SqlMapper.Value.Comparison
/-!
# SqlMapper.Value.Formatting

Texts with placeholders: `%s`, `%d` and the like, filled in order from a list of values or by name
from a mapping. A placeholder may give flags, a least width and a precision.
-/

namespace SqlMapper.Formatting

/-- A placeholder without its key. -/
structure Spec where
  left : Bool := false
  plus : Bool := false
  space : Bool := false
  zero : Bool := false
  alternate : Bool := false
  width : Nat := 0
  precision : Option Nat := none
  conversion : Char := 's'

/-- A piece of a text with placeholders. -/
inductive Piece
  | literal (c : Char)
  | slot (key : Option String) (spec : Spec)

/-- Read decimal digits. -/
def readNat (cs : List Char) : Option Nat × List Char :=
  let ds := cs.takeWhile Char.isDigit
  (if ds.isEmpty then none else some (Number.valueOfDigits 10 (ds.map fun c => c.toNat - 48)),
    cs.dropWhile Char.isDigit)

/-- Read flags. -/
def readFlags (s : Spec) : List Char → Spec × List Char
  | '-' :: cs => readFlags { s with left := true } cs
  | '+' :: cs => readFlags { s with plus := true } cs
  | ' ' :: cs => readFlags { s with space := true } cs
  | '0' :: cs => readFlags { s with zero := true } cs
  | '#' :: cs => readFlags { s with alternate := true } cs
  | cs => (s, cs)

/-- Read a placeholder after its percent sign. -/
def readSpec (cs : List Char) : Option (Option String × Spec × List Char) := do
  let (key, cs) ← match cs with
    | '(' :: cs =>
      match cs.dropWhile (· != ')') with
      | [] => none
      | _ :: rest => some (some (String.ofList (cs.takeWhile (· != ')'))), rest)
    | cs => some (none, cs)
  let (spec, cs) := readFlags {} cs
  let (width, cs) := readNat cs
  let (precision, cs) := match cs with
    | '.' :: cs => let (p, cs) := readNat cs; (some (p.getD 0), cs)
    | cs => (none, cs)
  let cs := cs.dropWhile fun c => c == 'h' || c == 'l' || c == 'L'
  match cs with
  | [] => none
  | c :: cs => some (key, { spec with width := width.getD 0, precision, conversion := c }, cs)

/-- Cut a text into pieces; the fuel is its length. -/
def pieces : Nat → List Char → Result (List Piece)
  | 0, _ => .ok []
  | _, [] => .ok []
  | fuel + 1, '%' :: cs =>
    match readSpec cs with
    | none => .error (.other .value "incomplete format")
    | some (key, spec, rest) => do
      if spec.conversion == '%' then return .literal '%' :: (← pieces fuel rest)
      return .slot key spec :: (← pieces fuel rest)
  | fuel + 1, c :: cs => do return .literal c :: (← pieces fuel cs)

/-- Bring a text to the least width. -/
def pad (s : Spec) (sign body : String) (numeric : Bool) : String :=
  let missing := s.width - (sign.length + body.length)
  let fill (c : Char) : String := String.ofList (List.replicate missing c)
  if s.left then sign ++ body ++ fill ' '
  else if s.zero && numeric then sign ++ fill '0' ++ body
  else fill ' ' ++ sign ++ body

/-- The sign of a number. -/
def signText (s : Spec) (negative : Bool) : String :=
  if negative then "-" else if s.plus then "+" else if s.space then " " else ""

/-- The integer that an integer placeholder shows. -/
def integerOf (c : Char) (v : Value) : Result Int :=
  match v with
  | .bool _ | .int _ => v.toInt
  | .float _ => if c == 'd' || c == 'i' || c == 'u' then v.toInt else
      .error (.other .type ("%" ++ String.singleton c ++ " format: an integer is required, not float"))
  | .absent _ why => .error (.missing why)
  | v => .error (.other .type ("%" ++ String.singleton c ++
      (if c == 'd' || c == 'i' || c == 'u' then " format: a real number is required, not "
        else " format: an integer is required, not ") ++ v.typeName))

/-- The float that a float placeholder shows. -/
def floatOf (v : Value) : Result Float :=
  match v with
  | .bool _ | .int _ | .float _ | .absent .. => v.toFloat
  | v => .error (.other .type ("must be real number, not " ++ v.typeName))

/-- A value in its placeholder. -/
def fill (s : Spec) (v : Value) : Result String := do
  match s.conversion with
  | 's' =>
    let t ← v.text
    return pad s "" (match s.precision with | some p => String.ofList (t.toList.take p) | none => t) false
  | 'r' | 'a' =>
    let t ← v.shown
    return pad s "" (match s.precision with | some p => String.ofList (t.toList.take p) | none => t) false
  | 'd' | 'i' | 'u' =>
    let n ← integerOf s.conversion v
    let digits := (← integerText n.natAbs)
    let digits := String.ofList (List.replicate (s.precision.getD 0 - digits.length) '0') ++ digits
    return pad s (signText s (n < 0)) digits true
  | 'x' | 'X' | 'o' =>
    let n ← integerOf s.conversion v
    let digits := Nat.toDigits (if s.conversion == 'o' then 8 else 16) n.natAbs
    let digits := if s.conversion == 'X' then digits.map Char.toUpper else digits
    let mark := if s.alternate then "0" ++ String.singleton s.conversion else ""
    return pad s (signText s (n < 0) ++ mark) (String.ofList digits) true
  | 'f' | 'F' =>
    let t := Number.fixedText (← floatOf v) (s.precision.getD 6)
    match t.toList with
    | '-' :: cs => return pad s "-" (String.ofList cs) true
    | _ => return pad s (signText s false) t true
  | 'c' =>
    match v with
    | .int n => return pad s "" (String.singleton (Char.ofNat n.toNat)) false
    | .str t =>
      if t.length = 1 then return pad s "" t false
      else throw (.other .type "%c requires int or char")
    | _ => throw (.other .type "%c requires int or char")
  | c => throw (.other .value ("unsupported format character '" ++ String.singleton c ++ "' (0x" ++
      String.ofList (Nat.toDigits 16 c.toNat) ++ ")"))

/-- Fill the placeholders from the values left; the values that remain come back. -/
def fillAll (mapping : Option (List (Value × Value))) :
    List Piece → List Value → Result (String × List Value)
  | [], vs => .ok ("", vs)
  | .literal c :: ps, vs => do
    let (t, vs) ← fillAll mapping ps vs
    return (String.singleton c ++ t, vs)
  | .slot (some key) spec :: ps, vs => do
    match mapping with
    | none => throw (.other .type "format requires a mapping")
    | some es =>
      match Value.lookup? (.str key) es with
      | none => throw (.other .key (Text.quoted key))
      | some v =>
        let t ← fill spec v
        let (u, vs) ← fillAll mapping ps vs
        return (t ++ u, vs)
  | .slot none spec :: ps, vs => do
    match vs with
    | [] => throw (.other .type "not enough arguments for format string")
    | v :: vs =>
      let t ← fill spec v
      let (u, vs) ← fillAll mapping ps vs
      return (t ++ u, vs)

/-- Fill a text with one value, or with several given as a tuple, or with a mapping's. -/
def format (template : String) (v : Value) : Result String := do
  let ps ← pieces (template.length + 1) template.toList
  let (values, mapping, lenient) : List Value × Option (List (Value × Value)) × Bool := match v with
    | .tuple xs => (xs, none, false)
    | .dict es => ([v], some es, true)
    | .readOnly es => ([v], some es, true)
    | .list _ | .bytes _ | .range .. | .absent .. => ([v], none, true)
    | v => ([v], none, false)
  let (t, rest) ← fillAll mapping ps values
  if !rest.isEmpty && !lenient then
    throw (.other .type "not all arguments converted during string formatting")
  return t

end SqlMapper.Formatting
