import SqlMapper.Value.Display
import SqlMapper.Text.Letters
/-!
# SqlMapper.Engine.QueryType

The kinds of statements. A kind decides the shape of the result: a `SELECT` gives rows, every other
kind gives the number of affected rows and the rows that came back.
-/

namespace SqlMapper

/-- The kinds of statements. -/
inductive QueryType
  | select
  | insert
  | update
  | bulkUpdate
  | delete
  | bulkDelete
  | upsert
  | raw
  deriving Repr, DecidableEq

namespace QueryType

/-- All kinds. -/
def all : List QueryType :=
  [select, insert, update, bulkUpdate, delete, bulkDelete, upsert, raw]

/-- The name of a kind. -/
def name : QueryType → String
  | select => "SELECT"
  | insert => "INSERT"
  | update => "UPDATE"
  | bulkUpdate => "BULKUPDATE"
  | delete => "DELETE"
  | bulkDelete => "BULKDELETE"
  | upsert => "UPSERT"
  | raw => "RAW"

/-- The kind of a given name, in capitals. -/
def ofName? (s : String) : Option QueryType := all.find? (·.name == s)

theorem ofName?_name (t : QueryType) : ofName? t.name = some t := by
  cases t <;> decide

/-- The kind that a text names, in any case and with blanks around it. -/
def ofText? (s : String) : Option QueryType :=
  ofName? (String.ofList (Text.upper (Text.trim s.toList)))

/-- The kind that a value names. -/
def ofValue? (v : Value) : Option QueryType := v.text? >>= ofText?

/-- How messages show a kind that was not given by name. -/
def shown (t : QueryType) : String := "<QueryTypeEnum." ++ t.name ++ ": '" ++ t.name ++ "'>"

end QueryType

/-- What a caller says about the kind of a statement: a kind, or a value that may name one. -/
inductive TypeName
  | known (t : QueryType)
  | named (v : Value)

namespace TypeName

/-- The kind that is meant. -/
def type? : TypeName → Option QueryType
  | known t => some t
  | named v => QueryType.ofValue? v

/-- How messages show what was said. -/
def shown : TypeName → Result String
  | known t => .ok t.shown
  | named v => v.shown

end TypeName
end SqlMapper
