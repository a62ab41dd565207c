import SqlMapper.Value.Comparison
import SqlMapper.Number.Shortest
/-!
# SqlMapper.Store.Cell

What a database keeps of a value. A column has an inclination, its type, but refuses nothing that can
be bound: an integer column turns texts that spell numbers into numbers, a text column turns numbers
into texts, and all else is kept as it is (`Cell.incline`). A value that is compared with a column is
treated as if it were to be stored there, so a condition finds what was saved under the same value.
-/

namespace SqlMapper

/-- What a column of a row holds. -/
inductive Cell
  | null
  | int (n : Int)
  | real (x : Float)
  | text (s : String)
  | blob (bs : List UInt8)

namespace Cell

/-- The value that is read from a cell. -/
def value : Cell → Value
  | null => .null
  | int n => .int n
  | real x => .float x
  | text s => .str s
  | blob bs => .bytes bs

/-- Is the cell empty? -/
def isNull : Cell → Bool
  | null => true
  | _ => false

/-- Does an integer fit into 64 bits? -/
def fits (n : Int) : Bool := -(Number.twoTo 63 : Int) ≤ n && n < Number.twoTo 63

/-- A number, as an integer if it is one. -/
def ofFloat (x : Float) : Cell :=
  match Number.exactInt? x with
  | some n => if fits (n - 1) && fits (n + 1) then int n else real x
  | none => real x

/-- Is the character a blank around a number? -/
def isSpace (c : Char) : Bool := c == ' ' || ('\t' ≤ c && c ≤ '\r')

/-- Can the character occur in the text of a number? -/
def isNumberChar (c : Char) : Bool :=
  c.isDigit || c == '+' || c == '-' || c == '.' || c == 'e' || c == 'E'

/-- The number that a text spells. -/
def ofNumeral? (s : String) : Option Cell :=
  let cs := ((s.toList.dropWhile isSpace).reverse.dropWhile isSpace).reverse
  let (negative, digits) := Number.splitSign cs
  if !digits.isEmpty && digits.all (·.isDigit) then
    let n : Nat := Number.valueOfDigits 10 (digits.map fun c => c.toNat - 48)
    let n : Int := if negative then -n else n
    some (if fits n then int n else real (Number.ofScientific negative n.natAbs 0))
  else if cs.all isNumberChar then (Number.readFloat? cs).map ofFloat
  else none

/-- What a column of a type makes of a cell. -/
def incline (type : FieldType) (c : Cell) : Cell :=
  match type, c with
  | .integer, text s => (ofNumeral? s).getD (text s)
  | .integer, real x => ofFloat x
  | .text, int n => text (toString n)
  | .text, real x => text (Number.significantText x 15)
  | _, c => c

/-- The number in a cell. -/
def numeric? : Cell → Option Numeric
  | int n => some (.int n)
  | real x => some (.float x)
  | _ => none

/-- The rank of a cell's kind in the order of all cells. -/
def rank : Cell → Nat
  | null => 0
  | int _ | real _ => 1
  | text _ => 2
  | blob _ => 3

/-- The order of cells: first by kind, then by number, by code point or by byte. -/
def order (a b : Cell) : Ordering :=
  match a, b with
  | int m, int n => compare m n
  | text s, text t => compareTexts s.toList t.toList
  | blob s, blob t => compareBytes s t
  | a, b =>
    match a.numeric?, b.numeric? with
    | some x, some y => (x.compare? y).getD .eq
    | _, _ => compare a.rank b.rank

/-- Are two cells equal? An empty cell equals none. -/
def equals (a b : Cell) : Bool := !a.isNull && a.order b == .eq

end Cell
end SqlMapper
