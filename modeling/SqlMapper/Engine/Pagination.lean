import SqlMapper.Engine.Execution
import SqlMapper.Engine.Paging
import SqlMapper.Sql.Count
/-!
# SqlMapper.Engine.Pagination

Reading one page of a `SELECT`: a first statement counts the rows, and only if there are any a second
one reads the window that the page asks for. What is asked for never changes, and at most two
statements are sent. The page is completed as far as the call gets (`PageOutcome`), so a failure of the
second statement leaves a page that knows its count.
-/

namespace SqlMapper

/-- What a call leaves of a page: the page, and the error that ended the call. -/
structure PageOutcome where
  page : Paging
  error : Option Error := none

/-- The column that a count is read from. -/
def countColumn : String := "count"

/-- The value that a row has in the column of the count. -/
def countEntry? : Value → Option Value
  | .dict es => Value.lookup? (.str countColumn) es
  | _ => none

/-- The count that a result states: that of its first row, or 0 if there is none. -/
def countOf : List Value → Except Error Int
  | [] => .ok 0
  | row :: _ =>
    match countEntry? row with
    | none => .error (.failure (.other .key (Text.quoted countColumn)))
    | some v =>
      match v.toInt with
      | .ok n => .ok n
      | .error e => .error (.failure e)

namespace Engine

/-- Count the rows of a `SELECT`. -/
def count (e : Engine) (sql : String) (params : Template.Params) : Run Int := do
  let rows ← e.execute (Sql.deriveCount sql) (.known .select) params none
  countOf rows

/-- Read the rows in the window of a page. -/
def window (e : Engine) (sql : String) (p : Paging) (params : Template.Params) :
    Run (List Value) :=
  e.execute (Sql.window sql p.index p.size) (.known .select) params none

/-- Complete a page. -/
def paginate (e : Engine) (sql : String) (p : Paging) (params : Template.Params) :
    StateM Session PageOutcome := do
  match ← (e.count sql params).run with
  | .error err => return { page := p, error := some err }
  | .ok n =>
    let p := { p with count := some n }
    if n ≤ 0 then
      discard (Session.log (.paged p.index p.size n)).run
      return { page := p }
    match ← (e.window sql p params).run with
    | .error err => return { page := p, error := some err }
    | .ok rows =>
      discard (Session.log (.paged p.index p.size n)).run
      return { page := { p with items := some rows } }

end Engine
end SqlMapper
