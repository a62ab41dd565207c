import SqlMapper.Store.Cell
/-!
# SqlMapper.Store.Basic

Tables of rows with keys. A statement that writes is checked as a whole (`Relation.checked`): no column
that refuses NULL is empty, and no two rows have the same key. Since a failed statement has no result,
it leaves every table as it was.

A table whose key is one integer column keeps its rows in the order of the key, and gives a new row the
greatest key plus one, or, where there is no greater one, a key that is not in use; any other table keeps its
rows in the order of insertion.
-/

namespace SqlMapper

/-- Why a table refuses a statement. -/
inductive StoreError
  | noTable (table : String)
  | notNull (table column : String)
  /-- The columns of the key, in words. -/
  | unique (columns : String)
  /-- The key is an integer, and the value is none. -/
  | mismatch
  /-- An integer does not fit into 64 bits. -/
  | tooLarge
  /-- A value, here by its place among those that are bound and by its type, cannot be stored. -/
  | unsupported (position : Nat) (type : String)
  /-- An update changes nothing; is there a condition? -/
  | emptyUpdate (conditional : Bool)
  /-- A condition is about an attribute that there is not. -/
  | unknownCondition (name cls table : String)
  /-- A change is to an attribute that there is not. -/
  | unknownAttribute (name : String)
  /-- A key has another number of columns, here in words. -/
  | keySize (columns : String)
  /-- A key has other attributes, here in words. -/
  | keyNames (names : String)
  | failure (e : Failure)
  deriving Repr, DecidableEq

/-- The wording of a refusal. -/
def StoreError.message : StoreError → String
  | noTable table => "no such table: " ++ table
  | notNull table column => "NOT NULL constraint failed: " ++ table ++ "." ++ column
  | unique columns => "UNIQUE constraint failed: " ++ columns
  | mismatch => "datatype mismatch"
  | tooLarge => "Python int too large to convert to SQLite INTEGER"
  | unsupported position type =>
    "Error binding parameter " ++ toString position ++ ": type '" ++ type ++ "' is not supported"
  | emptyUpdate conditional =>
    if conditional then "near \"WHERE\": syntax error" else "incomplete input"
  | unknownCondition name cls table =>
    "None of the FROM clause entities have a property \"" ++ name ++
      "\". Searched entities: Mapper[" ++ cls ++ "(" ++ table ++ ")]"
  | unknownAttribute name =>
    "Attribute name not found, can't be synchronized back to objects: " ++ Text.quoted name
  | keySize columns =>
    "Incorrect number of values in identifier to formulate primary key for session.get(); " ++
      "primary key columns are " ++ columns
  | keyNames names =>
    "Incorrect names of values in identifier to formulate primary key for session.get(); " ++
      "primary key attribute names are " ++ names ++ " (synonym names are also accepted)"
  | failure e => e.message

/-- A row of a table: a cell for each attribute of its class. -/
abbrev Tuple := List (String × Cell)

namespace Tuple

/-- The cell of an attribute. -/
def cell (t : Tuple) (name : String) : Cell := (t.lookup name).getD .null

/-- Change some attributes. -/
def change (t changes : Tuple) : Tuple :=
  t.map fun (a, c) => (a, (changes.lookup a).getD c)

end Tuple

/-- What a condition asks of a cell. -/
inductive Test
  | isNull
  | equals (c : Cell)

/-- Does a cell pass a test? -/
def Test.holds : Test → Cell → Bool
  | isNull, c => c.isNull
  | equals d, c => c.equals d

/-- Tests of attributes, all of which a row has to pass. -/
abbrev Condition := List (String × Test)

/-- Does a row meet a condition? -/
def Condition.holds (w : Condition) (t : Tuple) : Bool :=
  w.all fun (a, test) => test.holds (t.cell a)

/-- A table with its rows. -/
structure Relation where
  cls : EntityClass
  rows : List Tuple := []

namespace EntityClass

/-- The table's name, which is empty for a class without one. -/
def tableName (c : EntityClass) : String := c.table?.getD ""

/-- The field whose values are generated: a key of one integer column. -/
def generated? (c : EntityClass) : Option Field :=
  match c.keyFields with
  | [f] => if f.type = .integer then some f else none
  | _ => none

end EntityClass

namespace Relation

/-- The key of a row. -/
def key (r : Relation) (t : Tuple) : List Cell := r.cls.keyFields.map fun f => t.cell f.name

/-- The order of keys. -/
def orderKeys : List Cell → List Cell → Ordering
  | a :: as, b :: bs => (a.order b).then (orderKeys as bs)
  | _, _ => .eq

/-- Have two rows the same key? -/
def sameKey (r : Relation) (s t : Tuple) : Bool :=
  r.cls.keyFields.all fun f => (s.cell f.name).equals (t.cell f.name)

/-- Rows in the order of their keys. -/
def sorted (r : Relation) (ts : List Tuple) : List Tuple :=
  ts.mergeSort fun s t => orderKeys (r.key s) (r.key t) != .gt

/-- The column of a row that must not be empty and is. -/
def emptyField? (r : Relation) (t : Tuple) : Option Field :=
  r.cls.fields.find? fun f => !f.nullable && (t.cell f.name).isNull

/-- Do two of the rows have the same key? -/
def hasDuplicate (r : Relation) : List Tuple → Bool
  | [] => false
  | t :: ts => ts.any (r.sameKey t) || hasDuplicate r ts

/-- The columns of the key as messages show them. -/
def keyColumns (r : Relation) : List String :=
  r.cls.keyFields.map fun f => r.cls.tableName ++ "." ++ f.column

/-- The table with other rows, provided they keep its constraints. -/
def checked (r : Relation) (ts : List Tuple) : Except StoreError Relation :=
  match ts.findSome? r.emptyField? with
  | some f => .error (.notNull r.cls.tableName f.column)
  | none =>
    if r.hasDuplicate ts then .error (.unique (String.intercalate ", " r.keyColumns))
    else .ok { r with rows := if r.cls.generated?.isSome then r.sorted ts else ts }

/-- The next key of a table whose keys are generated: the greatest plus one. Where that does not fit
into 64 bits, a database takes any number that is not in use; here it is the least positive one. -/
def nextKey (r : Relation) (f : Field) : Int :=
  match r.rows.filterMap fun t => match t.cell f.name with
    | .int n => some n
    | _ => none with
  | [] => 1
  | n :: ns =>
    let next := ns.foldl max n + 1
    let positive := (List.range (ns.length + 2)).map fun k : Nat => (k : Int) + 1
    if Cell.fits next then next else (positive.find? fun k => !(n :: ns).contains k).getD next

/-- A row with its key generated if it has none; a key that is no integer is refused. -/
def withKey (r : Relation) (t : Tuple) : Except StoreError Tuple :=
  match r.cls.generated? with
  | none => .ok t
  | some f =>
    match t.cell f.name with
    | .null =>
      if Cell.fits (r.nextKey f) then .ok (t.change [(f.name, .int (r.nextKey f))]) else .error .tooLarge
    | .int _ => .ok t
    | _ => .error .mismatch

/-- Add a row; with the row as it is stored. -/
def insert (r : Relation) (t : Tuple) : Except StoreError (Tuple × Relation) := do
  let t ← r.withKey t
  let r ← r.checked (r.rows ++ [t])
  return (t, r)

/-- Do changes set a generated key to something that is no integer? -/
def spoilsKey (r : Relation) (changes : Tuple) : Bool :=
  match r.cls.generated?.bind fun f => changes.lookup f.name with
  | none | some (.int _) => false
  | some _ => true

/-- Change the rows that meet a condition; with their number. -/
def update (r : Relation) (w : Condition) (changes : Tuple) :
    Except StoreError (Nat × Relation) := do
  let n := r.rows.countP w.holds
  if n ≠ 0 ∧ r.spoilsKey changes then throw .mismatch
  let r ← r.checked (r.rows.map fun t => if w.holds t then t.change changes else t)
  return (n, r)

/-- Remove the rows that meet a condition; with their number. -/
def delete (r : Relation) (w : Condition) : Nat × Relation :=
  (r.rows.countP w.holds, { r with rows := r.rows.filter fun t => !w.holds t })

/-- The rows that meet a condition. -/
def select (r : Relation) (w : Condition) : List Tuple := r.rows.filter w.holds

/-- The row that is read first of those that meet a condition. A condition on the first column of a
key of several columns makes the table be read in the order of the key. -/
def first? (r : Relation) (w : Condition) : Option Tuple :=
  match r.cls.keyFields with
  | f :: _ :: _ =>
    if (w.lookup f.name).isSome then (r.sorted (r.select w)).head? else (r.select w).head?
  | _ => (r.select w).head?

end Relation

/-- Tables. -/
abbrev Store := List Relation

namespace Store

/-- The empty tables of some classes. -/
def ofClasses (cs : List EntityClass) : Store := cs.map fun c => { cls := c }

/-- The table of a class. -/
def relation (s : Store) (c : EntityClass) : Except StoreError Relation :=
  match s.find? (·.cls.tableName == c.tableName) with
  | some r => .ok r
  | none => .error (.noTable c.tableName)

/-- Replace the table of a class. -/
def put (s : Store) (r : Relation) : Store :=
  s.map fun q => if q.cls.tableName == r.cls.tableName then r else q

end Store
end SqlMapper
