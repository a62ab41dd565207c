import SqlMapper.Value.Conversion
import SqlMapper.Text.Search
/-!
# SqlMapper.Value.Comparison

Equality and order of values. Numbers of all kinds compare by their exact value, a finished SQL text
like any other text, and sequences element by element. Only a strict absent value refuses to be
compared for equality; order exists between numbers, between texts, and between like sequences.
-/

namespace SqlMapper

/-- A number, for comparing. -/
inductive Numeric
  | int (n : Int)
  | float (x : Float)

namespace Numeric

/-- The order of two numbers; nothing if one of them is a NaN. -/
def compare? : Numeric → Numeric → Option Ordering
  | int a, int b => some (compare a b)
  | int a, float y => Number.compareIntFloat a y
  | float x, int b => (Number.compareIntFloat b x).map Ordering.swap
  | float x, float y =>
    if x < y then some .lt else if y < x then some .gt else if x == y then some .eq else none

end Numeric

/-- The operators that compare by order. -/
inductive OrderOp
  | lt
  | le
  | gt
  | ge
  deriving Repr, DecidableEq

namespace OrderOp

/-- The sign of the operator. -/
def sign : OrderOp → String
  | lt => "<"
  | le => "<="
  | gt => ">"
  | ge => ">="

/-- Does the operator hold of two operands in this order? -/
def holds : OrderOp → Ordering → Bool
  | lt, o => o == .lt
  | le, o => o != .gt
  | gt, o => o == .gt
  | ge, o => o != .lt

end OrderOp

/-- Lexicographic order by code point. -/
def compareTexts : List Char → List Char → Ordering
  | [], [] => .eq
  | [], _ => .lt
  | _, [] => .gt
  | a :: as, b :: bs => if a < b then .lt else if b < a then .gt else compareTexts as bs

/-- Lexicographic order of bytes. -/
def compareBytes (a b : List UInt8) : Ordering :=
  compareTexts (a.map fun x => Char.ofNat x.toNat) (b.map fun x => Char.ofNat x.toNat)

namespace Value

/-- A value as a number. -/
def numeric? : Value → Option Numeric
  | bool b => some (.int (if b then 1 else 0))
  | int n => some (.int n)
  | float x => some (.float x)
  | _ => none

mutual

/-- Are two values equal? -/
def eq : Value → Value → Result Bool
  | absent true why, _ => .error (.missing why)
  | _, absent true why => .error (.missing why)
  | absent false _, absent false _ => .ok true
  | null, null => .ok true
  | str a, str b | str a, sql b | sql a, str b | sql a, sql b => .ok (a == b)
  | bytes a, bytes b => .ok (a == b)
  | list xs, list ys => eqAll xs ys
  | tuple xs, tuple ys => eqAll xs ys
  | set _ xs, set _ ys => do
    if xs.length = ys.length then allIn xs ys else return false
  | dict xs, dict ys => do
    if xs.length = ys.length then entriesIn xs ys else return false
  | readOnly xs, readOnly ys => do
    if xs.length = ys.length then entriesIn xs ys else return false
  | readOnly xs, dict ys => do
    if xs.length = ys.length then entriesIn xs ys else return false
  | dict xs, readOnly ys => do
    if xs.length = ys.length then entriesIn xs ys else return false
  | entity c xs, entity d ys => do
    if c = d then eqFields xs ys else return false
  | cls c, cls d => .ok (c = d)
  | range a b s, range c d t =>
    let n := rangeLength a b s
    .ok (n = rangeLength c d t && (n = 0 || a = c && (n = 1 || s = t)))
  | helpers, helpers => .ok true
  | function f, function g => .ok (f = g)
  | snippet i fs, snippet j gs => .ok (i = j && fs = gs)
  | cell _ a, cell _ b => .ok (a = b)
  | a, b =>
    match a.numeric?, b.numeric? with
    | some x, some y => .ok (x.compare? y == some .eq)
    | _, _ => .ok false

/-- Are two sequences equal, element by element? -/
def eqAll : List Value → List Value → Result Bool
  | [], [] => .ok true
  | x :: xs, y :: ys => do
    if ← eq x y then eqAll xs ys else return false
  | _, _ => .ok false

/-- Is every element of the first among the second? -/
def allIn : List Value → List Value → Result Bool
  | [], _ => .ok true
  | x :: xs, ys => do
    if ← ys.anyM (eq x ·) then allIn xs ys else return false

/-- Is every entry of the first an entry of the second? -/
def entriesIn : List (Value × Value) → List (Value × Value) → Result Bool
  | [], _ => .ok true
  | (k, v) :: es, fs => do
    if ← fs.anyM (fun (k', v') => do if ← eq k k' then eq v v' else return false) then
      entriesIn es fs
    else return false

/-- Do two entities agree in every field? -/
def eqFields : List (String × Value) → List (String × Value) → Result Bool
  | [], [] => .ok true
  | (_, v) :: fs, (_, w) :: gs => do
    if ← eq v w then eqFields fs gs else return false
  | _, _ => .ok false

end

/-- Are two keys the same? -/
def sameKey (a b : Value) : Bool :=
  match eq a b with
  | .ok b => b
  | .error _ => false

/-- The value under a key. -/
def lookup? (key : Value) (entries : List (Value × Value)) : Option Value :=
  (entries.find? fun e => sameKey key e.1).map (·.2)

theorem sameKey_str (a b : String) : sameKey (.str a) (.str b) = (a == b) := by
  simp [sameKey, eq]

/-- A value is looked up by its text if all keys are texts. -/
theorem lookup?_str (key : String) (entries : List (String × Value)) :
    lookup? (.str key) (entries.map fun (k, v) => (.str k, v)) = entries.lookup key := by
  unfold lookup?
  induction entries with
  | nil => rfl
  | cons entry entries ih =>
    obtain ⟨k, v⟩ := entry
    simp only [List.map_cons, List.find?_cons, sameKey_str, List.lookup_cons]
    cases key == k
    · exact ih
    · rfl

/-- Put a value under a key: in place if the key is there, else at the end. -/
def insertEntry (key v : Value) : List (Value × Value) → List (Value × Value)
  | [] => [(key, v)]
  | (k, w) :: es => if sameKey key k then (k, v) :: es else (k, w) :: insertEntry key v es

/-- Entries with later ones replacing earlier ones under the same key. -/
def ofEntries (entries : List (Value × Value)) : List (Value × Value) :=
  entries.foldl (fun es e => insertEntry e.1 e.2 es) []

mutual

/-- Does an order hold between two values? -/
def ordered (op : OrderOp) : Value → Value → Result Bool
  | absent _ why, _ => .error (.missing why)
  | _, absent _ why => .error (.missing why)
  | str a, str b | str a, sql b | sql a, str b | sql a, sql b =>
    .ok (op.holds (compareTexts a.toList b.toList))
  | bytes a, bytes b => .ok (op.holds (compareBytes a b))
  | list xs, list ys => orderedAll op xs ys
  | tuple xs, tuple ys => orderedAll op xs ys
  | set _ xs, set _ ys => do
    let below ← allIn xs ys
    let above ← allIn ys xs
    return match op with
      | .lt => below && !above
      | .le => below
      | .gt => above && !below
      | .ge => above
  | a, b =>
    match a.numeric?, b.numeric? with
    | some x, some y => .ok ((x.compare? y).any op.holds)
    | _, _ => .error (.unordered op.sign a.typeName b.typeName)

/-- The order of two sequences is that of the first pair that differs, else of the lengths. -/
def orderedAll (op : OrderOp) : List Value → List Value → Result Bool
  | x :: xs, y :: ys => do
    if ← eq x y then orderedAll op xs ys else ordered op x y
  | xs, ys => .ok (op.holds (compare xs.length ys.length))

end

/-- Is a value an element of a container? -/
def isIn (x container : Value) : Result Bool :=
  match container with
  | str s | sql s =>
    match x.text? with
    | some t => .ok (Text.occursIn t.toList s.toList)
    | none =>
      .error (.other .type ("'in <string>' requires string as left operand, not " ++ x.typeName))
  | dict es | readOnly es | view .keys es => do
    hashable x
    return (lookup? x es).isSome
  | set _ xs => do
    match x with
    | set _ _ => pure ()
    | x => hashable x
    return xs.any (sameKey x)
  | absent true why => .error (.missing why)
  | v =>
    match v.items with
    | .ok xs => xs.anyM (eq x ·)
    | .error _ => .error (.notContainer v.typeName)

end Value
end SqlMapper
