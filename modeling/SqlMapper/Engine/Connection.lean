import SqlMapper.Error
/-!
# SqlMapper.Engine.Connection

Statements on their way to a database. The database is what it answers: a session holds the responses
that are still to come, and records every statement that was sent and how its transaction ended.

A statement runs in a transaction of its own. The rows of a `SELECT` become entities inside it, so the
transaction is rolled back exactly if the database reports an error or a row is no entity
(`Response.result`).
-/

namespace SqlMapper

/-- A row: values by column name. -/
abbrev Row := List (String × Value)

/-- A row as a mapping. -/
def Row.value (r : Row) : Value := .dict (r.map fun (k, v) => (.str k, v))

/-- What a database answers to a statement. -/
inductive Response
  /-- Rows, and how many rows are affected. -/
  | rows (rows : List Row) (affected : Int)
  /-- How many rows are affected. -/
  | count (affected : Int)
  | error (text : String)

/-- How a transaction ends. -/
inductive Ending
  | commit
  | rollback
  deriving Repr, DecidableEq

/-- A statement that was sent. -/
structure Call where
  sql : String
  params : Template.Params
  ending : Ending

/-- What goes on between the library and a database. -/
structure Session where
  /-- The answers still to come; then every answer is an empty one. -/
  responses : List Response
  calls : List Call := []
  events : List Event := []

/-- A computation in a session, which is kept when it fails. -/
abbrev Run := ExceptT Error (StateM Session)

namespace Response

/-- Rows as entities of a class. -/
def hydrate (c : EntityClass) (rows : List Row) : Except Error (List Value) :=
  rows.mapM fun r =>
    match c.hydrate r with
    | .ok v => .ok v
    | .error e => .error (.ofHydration e)

/-- The result of a statement: rows for a `SELECT`, as entities if a class is given; else the number
of affected rows, and the rows. -/
def result (type : QueryType) (cls : Option EntityClass) : Response → Except Error (List Value)
  | error text => .error (.driver text)
  | rows rs affected =>
    match type, cls with
    | .select, some c => hydrate c rs
    | .select, none => .ok (rs.map Row.value)
    | _, _ => .ok [.int affected, .list (rs.map Row.value)]
  | count affected =>
    match type with
    | .select => .ok []
    | _ => .ok [.int affected, .list []]

end Response

namespace Session

/-- The next response. -/
def next (s : Session) : Response := s.responses.head?.getD (.rows [] (-1))

/-- Say that something has happened. -/
def log (e : Event) : Run Unit := modify fun s => { s with events := s.events ++ [e] }

/-- Send a statement. -/
def send (sql : String) (params : Template.Params) (type : QueryType) (cls : Option EntityClass) :
    Run (List Value) := fun s =>
  let result := s.next.result type cls
  let ending : Ending :=
    match result with
    | .ok _ => .commit
    | .error _ => .rollback
  (result, { s with responses := s.responses.tail, calls := s.calls ++ [⟨sql, params, ending⟩] })

end Session
end SqlMapper
