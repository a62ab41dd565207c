import SqlMapper.Value.Display
/-!
# SqlMapper.Value.Conversion

Values as truth values, numbers, indices and sequences. An absent value counts as false and as an
empty sequence unless it is strict; as a number it always fails.
-/

namespace SqlMapper

namespace Value

/-- Is a value true? Empty texts and collections, zero, null and absent values are not. -/
def truth : Value → Result Bool
  | null => .ok false
  | bool b => .ok b
  | int n => .ok (n != 0)
  | float x => .ok (x != 0.0)
  | str s => .ok (!s.isEmpty)
  | sql s => .ok (!s.isEmpty)
  | bytes bs => .ok (!bs.isEmpty)
  | list xs | tuple xs | set _ xs => .ok (!xs.isEmpty)
  | dict es | readOnly es | view _ es => .ok (!es.isEmpty)
  | range start stop step => .ok (if 0 < step then start < stop else stop < start)
  | absent true why => .error (.missing why)
  | absent false _ => .ok false
  | entity .. | cls _ | helpers | function _ | method .. | snippet .. | cell .. | selfReference =>
    .ok true

/-- The integer that a text denotes. -/
def intOfText (cs : List Char) (quoted : String) : Result Int :=
  match Number.readInt cs with
  | .ok n => .ok n
  | .malformed => .error (.badInteger quoted)
  | .tooLong digits => .error (.tooManyDigits (some digits))

/-- Bytes as characters, if all of them are ASCII. -/
def asciiText? (bs : List UInt8) : Option (List Char) :=
  if bs.all (·.toNat < 128) then some (bs.map fun b => Char.ofNat b.toNat) else none

/-- A value converted to an integer. Fractions are cut off. -/
def toInt : Value → Result Int
  | bool b => .ok (if b then 1 else 0)
  | int n => .ok n
  | float x =>
    match Number.truncate? x with
    | some n => .ok n
    | none => .error (.noIntegerValue (Number.text x))
  | str s => intOfText s.toList (Text.quoted s)
  | sql s => intOfText s.toList (Text.quoted s)
  | bytes bs =>
    match asciiText? bs with
    | some cs => intOfText cs (Text.quotedBytes bs)
    | none => .error (.badInteger (Text.quotedBytes bs))
  | absent _ why => .error (.missing why)
  | v => .error (.other .type ("int() argument must be a string, a bytes-like object or a real " ++
      "number, not '" ++ v.typeName ++ "'"))

/-- The float that a text denotes. -/
def floatOfText (cs : List Char) (quoted : String) : Result Float :=
  match Number.readFloat? cs with
  | some x => .ok x
  | none => .error (.badFloat quoted)

/-- The float nearest to an integer. -/
def floatOfInt (n : Int) : Result Float :=
  match Number.ofInt? n with
  | some x => .ok x
  | none => .error .integerTooLarge

/-- A value converted to a float. -/
def toFloat : Value → Result Float
  | bool b => .ok (if b then 1.0 else 0.0)
  | int n => floatOfInt n
  | float x => .ok x
  | str s => floatOfText s.toList (Text.quoted s)
  | sql s => floatOfText s.toList (Text.quoted s)
  | bytes bs =>
    match asciiText? bs with
    | some cs => floatOfText cs (Text.quotedBytes bs)
    | none => .error (.badFloat (Text.quotedBytes bs))
  | absent _ why => .error (.missing why)
  | v => .error (.other .type ("float() argument must be a string or a real number, not '" ++
      v.typeName ++ "'"))

/-- A value used as an index or a count: only integers are. -/
def toIndex : Value → Result Int
  | bool b => .ok (if b then 1 else 0)
  | int n => .ok n
  | v => .error (.notInteger v.typeName)

/-- Number of elements of a range. -/
def rangeLength (start stop step : Int) : Nat :=
  if 0 < step then ((stop - start + step - 1).fdiv step).toNat
  else ((start - stop - step - 1).fdiv (-step)).toNat

/-- The elements of a range. -/
def rangeItems (start stop step : Int) : List Value :=
  (List.range (rangeLength start stop step)).map fun i : Nat => int (start + i * step)

/-- Number of elements. -/
def length : Value → Result Nat
  | str s => .ok s.length
  | sql s => .ok s.length
  | bytes bs => .ok bs.length
  | list xs | tuple xs | set _ xs => .ok xs.length
  | dict es | readOnly es | view _ es => .ok es.length
  | range start stop step => .ok (rangeLength start stop step)
  | absent true why => .error (.missing why)
  | absent false _ => .ok 0
  | v => .error (.noLength v.typeName)

/-- The characters of a text as values. -/
def characters (s : String) : List Value := s.toList.map fun c => str (String.singleton c)

/-- The elements of a value. A mapping has its keys as elements, and a validated entity its fields
with their names. Cells are read by the template run and have no elements here. -/
def items : Value → Result (List Value)
  | str s => .ok (characters s)
  | sql s => .ok (characters s)
  | bytes bs => .ok (bs.map fun b => int b.toNat)
  | list xs | tuple xs | set _ xs => .ok xs
  | dict es | readOnly es | view .keys es => .ok (es.map (·.1))
  | view .values es => .ok (es.map (·.2))
  | view .items es => .ok (es.map fun (k, v) => tuple [k, v])
  | range start stop step => .ok (rangeItems start stop step)
  | absent true why => .error (.missing why)
  | absent false _ => .ok []
  | entity c fs =>
    if c.kind = .plain then .error (.notIterable c.name)
    else .ok (fs.map fun (name, v) => tuple [str name, v])
  | v => .error (.notIterable v.typeName)

@[simp] theorem items_list (xs : List Value) : items (list xs) = .ok xs := rfl

@[simp] theorem items_tuple (xs : List Value) : items (tuple xs) = .ok xs := rfl

/-- May a value be a key of a mapping? -/
def hashable : Value → Result Unit
  | list _ => .error (.unhashable "list")
  | dict _ => .error (.unhashable "dict")
  | readOnly _ => .error (.unhashable "mappingproxy")
  | set false _ => .error (.unhashable "set")
  | tuple xs => allHashable xs
  | entity c fs => if c.kind = .plain then .ok () else .error (.unhashable (entity c fs).typeName)
  | absent true why => .error (.missing why)
  | _ => .ok ()
where
  /-- May all of these be keys? -/
  allHashable : List Value → Result Unit
  | [] => .ok ()
  | x :: xs => do
    hashable x
    allHashable xs

end Value
end SqlMapper
