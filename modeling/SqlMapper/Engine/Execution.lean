import SqlMapper.Engine.Connection
import SqlMapper.Sql.Normalize
/-!
# SqlMapper.Engine.Execution

Running one statement. `Engine.query` sends a text as it is; `Engine.execute` accepts only the kinds of
statements that the engine runs, and sends and logs the normal form of the text (`Sql.normalize`).
Either way the kind is checked before anything is sent.
-/

namespace SqlMapper

/-- An engine: which kinds of statements it runs, and whether it says so to everybody. -/
structure Engine where
  types : List QueryType := QueryType.all
  loud : Bool := true

namespace Engine

/-- Send a text as it is. -/
def query (sql : String) (type : TypeName) (params : Template.Params) (cls : Option EntityClass) :
    Run (List Value) := do
  let type ← type.resolve fun _ => true
  Session.send sql params type cls

/-- Run a statement. -/
def execute (e : Engine) (sql : String) (type : TypeName) (params : Template.Params)
    (cls : Option EntityClass) : Run (List Value) := do
  let type ← type.resolve e.types.contains
  let sql := Sql.normalize sql
  Session.log (.executed e.loud sql)
  Session.send sql params type cls

end Engine
end SqlMapper
