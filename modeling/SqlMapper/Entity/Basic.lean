/-!
# SqlMapper.Entity.Basic

Entity classes: named collections of typed fields. A class may be mapped to a table, in which case
every field is stored in a column that may bear another name than the field; it may be a validated
record without a table; or a plain class that is merely constructed from named values.
-/

namespace SqlMapper

/-- What a field holds. -/
inductive FieldType
  | integer
  | text
  deriving Repr, DecidableEq

/-- The value a field has when none is given. -/
inductive Default
  /-- A value has to be given. -/
  | required
  /-- The field is then empty. -/
  | empty
  | integer (n : Int)
  deriving Repr, DecidableEq

/-- A field of an entity class. -/
structure Field where
  /-- Its name on the entity. -/
  name : String
  /-- The name of the column that stores it. -/
  column : String
  type : FieldType
  default : Default
  /-- Does validation accept an empty value? -/
  optional : Bool
  /-- Does the column accept NULL? -/
  nullable : Bool
  /-- Is the column part of the primary key? -/
  key : Bool
  /-- The longest text that validation accepts. -/
  maxLength : Option Nat
  deriving Repr, DecidableEq

/-- How instances of a class come about. -/
inductive ClassKind
  /-- Validated, and stored in the named table. -/
  | table (name : String)
  /-- Validated, not stored. -/
  | record
  /-- Constructed from named values without validation. -/
  | plain
  deriving Repr, DecidableEq

/-- An entity class. -/
structure EntityClass where
  name : String
  kind : ClassKind
  fields : List Field
  deriving Repr, DecidableEq

namespace EntityClass

/-- The table of a mapped class. -/
def table? (c : EntityClass) : Option String :=
  match c.kind with
  | .table name => some name
  | _ => none

/-- Is the class mapped to a table? -/
def isMapped (c : EntityClass) : Bool := c.table?.isSome

/-- The field of a given name. -/
def field? (c : EntityClass) (name : String) : Option Field :=
  c.fields.find? (·.name == name)

/-- The fields of the primary key, in declaration order. -/
def keyFields (c : EntityClass) : List Field := c.fields.filter (·.key)

/-- Pairs of attribute and column, in declaration order. -/
def attributeColumns (c : EntityClass) : List (String × String) :=
  c.fields.map fun f => (f.name, f.column)

/-- The select list that reads every column under its attribute's name. -/
def projection (c : EntityClass) : String :=
  String.intercalate "," (c.attributeColumns.map fun (a, col) => col ++ " AS " ++ a)

end EntityClass
end SqlMapper
