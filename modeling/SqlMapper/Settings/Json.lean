import SqlMapper.Value.Comparison
import SqlMapper.Number.Numeral
/-!
# SqlMapper.Settings.Json

Reading JSON, in which settings give their lists. The words `NaN` and `Infinity` count as numbers.
-/

namespace SqlMapper.Settings.Json

/-- A step of the reader: characters are taken from the front of the text. -/
abbrev Scan := StateT (List Char) Option

/-- Give up. -/
def malformed {α : Type} : Scan α := fun _ => none

/-- Pass blanks. -/
def blanks : Scan Unit :=
  modify fun cs => cs.dropWhile fun c => c == ' ' || c == '\t' || c == '\n' || c == '\r'

/-- Pass a text if it stands here. -/
def skipIf (s : String) : Scan Bool := fun cs =>
  match Text.dropStart? s.toList cs with
  | some rest => some (true, rest)
  | none => some (false, cs)

/-- Insist on a text. -/
def expect (s : String) : Scan Unit := do
  if !(← skipIf s) then malformed

/-- Four hexadecimal digits. -/
def unit : Scan Nat := do
  let cs ← get
  let digit? (c : Char) : Option Nat :=
    if c.isDigit then some (c.toNat - 48)
    else if 'a' ≤ c ∧ c ≤ 'f' then some (c.toNat - 87)
    else if 'A' ≤ c ∧ c ≤ 'F' then some (c.toNat - 55)
    else none
  match (cs.take 4).mapM digit? with
  | some ds =>
    if ds.length < 4 then malformed
    else
      set (cs.drop 4)
      return Number.valueOfDigits 16 ds
  | none => malformed

/-- The character of an escape. -/
def escape : Scan Char := do
  match ← get with
  | 'u' :: cs =>
    set cs
    let u ← unit
    if 0xd800 ≤ u ∧ u < 0xdc00 then
      if ← skipIf "\\u" then
        let v ← unit
        return Char.ofNat (0x10000 + (u - 0xd800) * 0x400 + (v - 0xdc00))
      else return Char.ofNat 0xfffd
    else return Char.ofNat u
  | c :: cs =>
    set cs
    match c with
    | '"' | '\\' | '/' => return c
    | 'b' => return '\x08'
    | 'f' => return '\x0c'
    | 'n' => return '\n'
    | 'r' => return '\r'
    | 't' => return '\t'
    | _ => malformed
  | [] => malformed

/-- The characters of a text up to its closing quote. -/
def characters : Nat → List Char → Scan (List Char)
  | 0, _ => malformed
  | n + 1, done => do
    match ← get with
    | '"' :: cs =>
      set cs
      return done.reverse
    | '\\' :: cs =>
      set cs
      let c ← escape
      characters n (c :: done)
    | c :: cs =>
      if c.toNat < 0x20 then malformed
      else
        set cs
        characters n (c :: done)
    | [] => malformed

/-- A number. -/
def number : Scan Value := do
  let cs ← get
  let isPart (c : Char) : Bool :=
    c.isDigit || c == '-' || c == '+' || c == '.' || c == 'e' || c == 'E'
  let part := cs.takeWhile isPart
  set (cs.drop part.length)
  let unsigned := match part with
    | '-' :: rest => rest
    | rest => rest
  match unsigned with
  | [] => malformed
  | c :: more =>
    let zeroLed := c == '0' && more.head?.any Char.isDigit
    if !c.isDigit || zeroLed then malformed
    else if unsigned.all Char.isDigit then
      match Number.readInt part with
      | .ok n => return .int n
      | _ => malformed
    else
      match Number.readFloat? part with
      | some x => return .float x
      | none => malformed

/-- Elements up to a closing mark. -/
def elements {α : Type} (closer : String) (element : Scan α) : Nat → List α → Scan (List α)
  | 0, _ => malformed
  | n + 1, done => do
    blanks
    if done.isEmpty then
      if ← skipIf closer then return []
    let a ← element
    blanks
    if ← skipIf "," then elements closer element n (a :: done)
    else
      expect closer
      return (a :: done).reverse

/-- A value; the number bounds the nesting. -/
def value : Nat → Scan Value
  | 0 => malformed
  | n + 1 => do
    blanks
    let words : List (String × Value) :=
      [("null", .null), ("true", .bool true), ("false", .bool false), ("NaN", .float (0.0 / 0.0)),
        ("Infinity", .float (1.0 / 0.0)), ("-Infinity", .float (-1.0 / 0.0))]
    for (word, v) in words do
      if ← skipIf word then return v
    let room := (← get).length + 1
    if ← skipIf "\"" then return .str (String.ofList (← characters room []))
    if ← skipIf "[" then return .list (← elements "]" (value n) room [])
    if ← skipIf "\x7b" then
      let pair : Scan (Value × Value) := do
        blanks
        expect "\""
        let key ← characters room []
        blanks
        expect ":"
        return (.str (String.ofList key), ← value n)
      return .dict (Value.ofEntries (← elements "\x7d" pair room []))
    number

/-- Read a whole text. -/
def read? (s : String) : Option Value :=
  let whole : Scan Value := do
    let v ← value (s.length + 1)
    blanks
    return v
  match whole.run s.toList with
  | some (v, []) => some v
  | _ => none

end SqlMapper.Settings.Json
