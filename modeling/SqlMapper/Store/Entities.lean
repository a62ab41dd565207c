import SqlMapper.Store.Basic
import SqlMapper.Entity.Hydration
/-!
# SqlMapper.Store.Entities

Entities in a store: saving, finding, updating and removing them. Conditions and changes name
attributes, never columns; each is first resolved against the class, then the table is looked up, then
values are bound in the order in which they stand in the statement, and only then the table is touched.
The same condition selects the same rows in every operation (`condition`).
-/

namespace SqlMapper

/-- Named values, in order. -/
abbrev Named := List (String × Value)

namespace Named

/-- The values of some names only, or all. -/
def restrict (vs : Named) : Option (List String) → Named
  | none => vs
  | some names => vs.filter fun (k, _) => names.contains k

end Named

namespace Store

/-! ## Binding -/

/-- A value as it is bound for a column, at a place in the statement. -/
def bind (position : Nat) (type : FieldType) (v : Value) : Except StoreError Cell :=
  let cell : Except StoreError Cell :=
    match v with
    | .null => .ok .null
    | .bool b => .ok (.int (if b then 1 else 0))
    | .int n => if Cell.fits n then .ok (.int n) else .error .tooLarge
    | .float x => .ok (if x.isNaN then .null else .real x)
    | .str s | .sql s => .ok (.text s)
    | .bytes bs => .ok (.blob bs)
    | v => .error (.unsupported position v.typeName)
  cell.map (Cell.incline type)

/-- Bind values for fields, counting from a place in the statement. -/
def bindAll (position : Nat) : List (Field × Value) → Except StoreError Tuple
  | [] => .ok []
  | (f, v) :: rest => do
    let c ← bind position f.type v
    let cs ← bindAll (position + 1) rest
    return (f.name, c) :: cs

/-- Is a value compared without being bound? -/
def isInline : Value → Bool
  | .null | .bool _ => true
  | _ => false

/-- Bind what a condition compares with: an absent value asks for empty cells. -/
def bindTests (position : Nat) : List (Field × Value) → Except StoreError Condition
  | [] => .ok []
  | (f, v) :: rest => do
    let test : Test ← match v with
      | .null => pure .isNull
      | v => .equals <$> bind position f.type v
    let tests ← bindTests (if isInline v then position else position + 1) rest
    return (f.name, test) :: tests

/-! ## Resolving names -/

/-- The fields that named values are about. -/
def fieldsOf (c : EntityClass) (unknown : String → StoreError) (vs : Named) :
    Except StoreError (List (Field × Value)) :=
  vs.mapM fun (k, v) =>
    match c.field? k with
    | some f => .ok (f, v)
    | none => .error (unknown k)

/-- The fields that a condition is about. -/
def conditionFields (c : EntityClass) (w : Named) : Except StoreError (List (Field × Value)) :=
  fieldsOf c (fun k => .unknownCondition k c.name c.tableName) w

/-! ## Entities -/

/-- The entity of a row. -/
def entityOf (c : EntityClass) (t : Tuple) : Value :=
  .entity c (c.fields.map fun f => (f.name, (t.cell f.name).value))

/-- The value of an attribute of a record: of a mapping or of an entity. -/
def valueOf? (record : Value) (name : String) : Option Value :=
  match record with
  | .dict es | .readOnly es => Value.lookup? (.str name) es
  | .entity _ fs => fs.lookup name
  | _ => none

/-- The declared attributes that a record has a value for, among those that are asked for. -/
def declaredValues (c : EntityClass) (record : Value) (only : Option (List String)) : Named :=
  Named.restrict (c.fields.filterMap fun f =>
    match valueOf? record f.name with
    | none | some .null => none
    | some v => some (f.name, v)) only

/-- The values of a new entity: those that are given, or else the defaults. -/
def initialValues (c : EntityClass) (vs : Named) : List (Field × Value) :=
  c.fields.map fun f => (f, (vs.lookup f.name).getD ((EntityClass.defaultValue? f).getD .null))

/-- Is a field left to the table, which generates its value? -/
def isGenerated (c : EntityClass) (f : Field) (v : Value) : Bool :=
  c.generated? == some f && (match v with
    | .null => true
    | _ => false)

/-- Add an entity with given values. -/
def create (c : EntityClass) (vs : Named) (s : Store) : Except StoreError (Value × Store) := do
  let r ← s.relation c
  let values := initialValues c vs
  let given ← bindAll 1 (values.filter fun (f, v) => !isGenerated c f v)
  let (t, r) ← r.insert (c.fields.map fun f => (f.name, Tuple.cell given f.name))
  return (entityOf c t, s.put r)

/-- Add an entity with the values of a record. -/
def save (c : EntityClass) (record : Value) (only : Option (List String)) (s : Store) :
    Except StoreError (Value × Store) :=
  create c (declaredValues c record only) s

/-- The rows that a condition selects, in a table. -/
def condition (c : EntityClass) (w : Named) (position : Nat) (s : Store) :
    Except StoreError (Relation × Condition) := do
  let fields ← conditionFields c w
  let r ← s.relation c
  let tests ← bindTests position fields
  return (r, tests)

/-- All entities that meet a condition, in the order of their keys. -/
def findAll (c : EntityClass) (w : Named) (s : Store) : Except StoreError Value := do
  let (r, tests) ← condition c w 1 s
  return .list ((r.sorted (r.select tests)).map (entityOf c))

/-- One entity that meets a condition. -/
def findOne (c : EntityClass) (w : Named) (s : Store) : Except StoreError Value := do
  let (r, tests) ← condition c w 1 s
  return ((r.first? tests).map (entityOf c)).getD .null

/-- The parts of a key that a value stands for: a sequence has several, any other value is one. -/
def keyParts (v : Value) : List Value :=
  match v with
  | .list xs | .tuple xs | .set _ xs => xs
  | .entity c fs =>
    if c.kind = .plain then [v] else fs.map fun (k, x) => .tuple [.str k, x]
  | v => [v]

/-- How messages list names. -/
def listed (names : List String) : String :=
  String.intercalate "," (names.map fun n => "'" ++ n ++ "'")

/-- The parts of a key by name: a mapping names them, any other value lists them. -/
def namedKey (c : EntityClass) (v : Value) : Except StoreError Named :=
  let names := c.keyFields.map (·.name)
  let wrongSize : StoreError :=
    .keySize (listed (c.keyFields.map fun f => c.tableName ++ "." ++ f.column))
  match v with
  | .dict es =>
    if es.length ≠ names.length then .error wrongSize
    else names.mapM fun n =>
      match Value.lookup? (.str n) es with
      | some x => .ok (n, x)
      | none => .error (.keyNames (listed names))
  | v =>
    let parts := keyParts v
    if parts.length ≠ names.length then .error wrongSize else .ok (names.zip parts)

/-- The first failure to take a value as part of a key. -/
def unhashable? (vs : Named) : Option Failure :=
  vs.findSome? fun (_, v) =>
    match v.hashable with
    | .ok _ => none
    | .error e => some e

/-- The key that a value stands for. -/
def keyOf (c : EntityClass) (v : Value) : Except StoreError Named := do
  let key ← namedKey c v
  match unhashable? key with
  | none => .ok key
  | some e => .error (.failure e)

/-- The entity of a key. -/
def findByKey (c : EntityClass) (key : Value) (s : Store) : Except StoreError Value := do
  findOne c (← keyOf c key) s

/-- Change the entities that meet a condition; with their number. -/
def update (c : EntityClass) (changes : Named) (w : Named) (s : Store) :
    Except StoreError (Nat × Store) := do
  let tested ← conditionFields c w
  let changed ← fieldsOf c .unknownAttribute changes
  if changed.isEmpty then throw (.emptyUpdate !tested.isEmpty)
  let r ← s.relation c
  let cells ← bindAll 1 changed
  let tests ← bindTests (1 + changed.length) tested
  let (n, r) ← r.update tests cells
  return (n, s.put r)

/-- Remove the entities that meet a condition; with their number. -/
def remove (c : EntityClass) (w : Named) (s : Store) : Except StoreError (Nat × Store) := do
  let (r, tests) ← condition c w 1 s
  let (n, r) := r.delete tests
  return (n, s.put r)

/-! ## Operations -/

/-- What can be done with the entities of a class. -/
inductive Operation
  | save (record : Value) (only : Option (List String))
  | create (values : Named)
  | findByKey (key : Value)
  | findOne (condition : Named)
  | findAll (condition : Named)
  | update (changes : Named) (condition : Named) (only : Option (List String))
  | remove (condition : Named)

/-- Read without changing anything. -/
def reading (found : Except StoreError Value) (s : Store) : Except StoreError (Value × Store) :=
  found.map fun v => (v, s)

/-- A number of rows as a result. -/
def counting (changed : Except StoreError (Nat × Store)) : Except StoreError (Value × Store) :=
  changed.map fun (n, s) => (.int n, s)

/-- Carry out an operation: its result, and the store after it. -/
def perform (c : EntityClass) (s : Store) : Operation → Except StoreError (Value × Store)
  | .save record only => save c record only s
  | .create values => create c values s
  | .findByKey key => reading (findByKey c key s) s
  | .findOne w => reading (findOne c w s) s
  | .findAll w => reading (findAll c w s) s
  | .update changes w only => counting (update c (changes.restrict only) w s)
  | .remove w => counting (remove c w s)

/-- The store after an operation, which is the same if the operation fails. -/
def step (s : Store) (c : EntityClass) (op : Operation) : Store :=
  match perform c s op with
  | .ok (_, s) => s
  | .error _ => s

end Store
end SqlMapper
