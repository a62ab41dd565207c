import SqlMapper.Value.Failure
import SqlMapper.Number.Shortest
import SqlMapper.Number.Numeral
/-!
# SqlMapper.Value.Display

The text of a value: `Value.text` as it is printed on its own, `Value.shown` as it is shown inside
another value, where texts are quoted. Both fail for an integer with more digits than are converted
to text, and the first for a strict absent value.
-/

namespace SqlMapper

/-- The decimal text of an integer, up to the limit of digits. -/
def integerText (n : Int) : Result String :=
  let digits := Nat.toDigits 10 n.natAbs
  if Number.digitLimit < digits.length then .error (.tooManyDigits none)
  else .ok (String.ofList (if n < 0 then '-' :: digits else digits))

/-- The word for a truth value. -/
def boolWord (b : Bool) : String := if b then "True" else "False"

namespace Value

mutual

/-- How a value is shown inside another. -/
def shown : Value → Result String
  | null => .ok "None"
  | bool b => .ok (boolWord b)
  | int n => integerText n
  | float x => .ok (Number.text x)
  | str s => .ok (Text.quoted s)
  | sql s => .ok (Text.quoted s)
  | bytes bs => .ok (Text.quotedBytes bs)
  | list xs => do return "[" ++ String.intercalate ", " (← shownAll xs) ++ "]"
  | tuple xs => do
    match ← shownAll xs with
    | [x] => return "(" ++ x ++ ",)"
    | ts => return "(" ++ String.intercalate ", " ts ++ ")"
  | set frozen xs => do
    let ts ← shownAll xs
    if ts.isEmpty then return if frozen then "frozenset()" else "set()"
    let body := "\x7b" ++ String.intercalate ", " ts ++ "\x7d"
    return if frozen then "frozenset(" ++ body ++ ")" else body
  | dict es => do
    return "\x7b" ++ String.intercalate ", " (← shownEntries es) ++ "\x7d"
  | readOnly es => do
    return "mappingproxy(\x7b" ++ String.intercalate ", " (← shownEntries es) ++ "\x7d)"
  | entity c fs => do
    return c.name ++ "(" ++ String.intercalate ", " (← shownFields fs) ++ ")"
  | cls c => .ok ("<class '" ++ c.name ++ "'>")
  | range start stop step => do
    let ends := (← integerText start) ++ ", " ++ (← integerText stop)
    let step ← if step = 1 then pure "" else (", " ++ ·) <$> integerText step
    return "range(" ++ ends ++ step ++ ")"
  | view .keys es => do return "dict_keys([" ++ String.intercalate ", " (← shownKeys es) ++ "])"
  | view .values es => do
    return "dict_values([" ++ String.intercalate ", " (← shownValues es) ++ "])"
  | view .items es => do
    return "dict_items([" ++ String.intercalate ", " (← shownPairs es) ++ "])"
  | absent _ _ => .ok "Undefined"
  | helpers => .ok "namespace()"
  | function .range => .ok "<class 'range'>"
  | function .dict => .ok "<class 'dict'>"
  | function _ => .ok "<function>"
  | method .. => .ok "<built-in method>"
  | snippet .. => .ok "<Macro>"
  | cell .record _ => .ok "<Namespace>"
  | cell .loop _ => .ok "<LoopContext>"
  | cell .cycler _ => .ok "<Cycler>"
  | cell .joiner _ => .ok "<Joiner>"
  | cell (.stream type) _ => .ok ("<" ++ type ++ " object>")
  | selfReference => .ok "<TemplateReference None>"

/-- How the elements of a sequence are shown. -/
def shownAll : List Value → Result (List String)
  | [] => .ok []
  | x :: xs => do return (← shown x) :: (← shownAll xs)

/-- How the entries of a mapping are shown. -/
def shownEntries : List (Value × Value) → Result (List String)
  | [] => .ok []
  | (k, v) :: es => do return ((← shown k) ++ ": " ++ (← shown v)) :: (← shownEntries es)

/-- How the keys of a mapping are shown. -/
def shownKeys : List (Value × Value) → Result (List String)
  | [] => .ok []
  | (k, _) :: es => do return (← shown k) :: (← shownKeys es)

/-- How the values of a mapping are shown. -/
def shownValues : List (Value × Value) → Result (List String)
  | [] => .ok []
  | (_, v) :: es => do return (← shown v) :: (← shownValues es)

/-- How the entries of a mapping are shown as pairs. -/
def shownPairs : List (Value × Value) → Result (List String)
  | [] => .ok []
  | (k, v) :: es => do
    return ("(" ++ (← shown k) ++ ", " ++ (← shown v) ++ ")") :: (← shownPairs es)

/-- How the fields of an entity are shown. -/
def shownFields : List (String × Value) → Result (List String)
  | [] => .ok []
  | (name, v) :: fs => do return (name ++ "=" ++ (← shown v)) :: (← shownFields fs)

end

/-- The text of a value. Texts stand for themselves, an absent value is empty, and an entity lists
its fields. -/
def text : Value → Result String
  | str s => .ok s
  | sql s => .ok s
  | absent true why => .error (.missing why)
  | absent false _ => .ok ""
  | entity c fs =>
    if c.kind = .plain then shown (entity c fs)
    else do return String.intercalate " " (← shownFields fs)
  | v => shown v

@[simp] theorem text_str (s : String) : text (str s) = .ok s := rfl

@[simp] theorem text_sql (s : String) : text (sql s) = .ok s := rfl

/-- The quoted form for messages, where a value that cannot be shown leaves a gap. -/
def shownOrEmpty (v : Value) : String :=
  match shown v with
  | .ok s => s
  | .error _ => ""

end Value
end SqlMapper
