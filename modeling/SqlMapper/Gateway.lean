import SqlMapper.Engine.Pagination
import SqlMapper.Mapper.Registry
/-!
# SqlMapper.Gateway

The way to a database for one entity class: statements by name, from a mapping document, and free SQL.

A gateway loads its document once. A load makes progress only while a call waits for it, so a gateway
that is merely asked for its state does not change. Every call that needs the document first asks the
registry; then it renders the statement; and only then anything is sent.
-/

namespace SqlMapper

open Mapper

/-- A gateway, and what goes on around it. -/
structure Gateway where
  engine : Engine
  /-- The entity classes that templates may mention. -/
  classes : List EntityClass
  registry : Registry
  session : Session

namespace Gateway

/-- Add a class, in place of one with the same name. -/
def register (classes : List EntityClass) (c : EntityClass) : List EntityClass :=
  if classes.any (·.name == c.name) then
    classes.map fun d => if d.name == c.name then c else d
  else classes ++ [c]

/-- The classes that templates of a gateway may mention: the class of the gateway among others. -/
def registered (cls : EntityClass) (others : List EntityClass) : List EntityClass :=
  (others ++ [cls]).foldl register []

/-- The context of a gateway's templates. -/
def context (classes : List EntityClass) : List (String × Value) :=
  Template.statementContext (.readOnly (Template.classEntries classes))

/-- A gateway whose document, if there is one, consists of given bytes under a given path. -/
def new (engine : Engine) (cls : EntityClass) (others : List EntityClass)
    (template : Option String) (limit : Option Limit) (strict : Bool)
    (files : String → Option (List UInt8)) (responses : List Response) : Gateway :=
  let classes := registered cls others
  let setting : Setting := { context := context classes, strict }
  { engine, classes,
    registry := .new template limit (fun path => .ofFile setting path (files path)) true,
    session := { responses } }

/-- A computation with a gateway, which is kept when it fails. -/
abbrev Use := ExceptT Error (StateM Gateway)

/-- Do something in the session of a gateway. -/
def inSession {α : Type} (m : StateM Session α) : StateM Gateway α := fun g =>
  let (a, s) := m g.session
  (a, { g with session := s })

/-- A computation in the session of a gateway. -/
def running {α : Type} (m : Run α) : Use α := inSession m.run

/-- Ask the registry and wait for its answer. -/
def obtain (q : Request) : StateM Gateway (Option Answer) := fun g =>
  let registry := g.registry.obtain q
  let news := registry.events.drop g.registry.events.length
  (registry.answerOf? .caller,
    { g with registry, session := { g.session with events := g.session.events ++ news } })

/-- The error of an answer that is not the one asked for. -/
def errorOf (g : Gateway) : Option Answer → Error
  | some (.refused r) => .refused r
  | _ => .refused (.notLoaded g.registry.shownPath)

/-- The statement of a given name. -/
def resolve (name : String) : Use Statement := do
  match ← obtain (.statement name) with
  | some (.statement s) => return s
  | a => throw ((← get).errorOf a)

/-- All statements. -/
def statements : Use Table := do
  match ← obtain .table with
  | some (.table t) => return t
  | a => throw ((← get).errorOf a)

/-- The text of a statement with parameters. -/
def renderStatement (s : Statement) (params : Template.Params) : Except Error String :=
  match s.render params with
  | .ok text => .ok text
  | .error e => .error (.ofRender e)

/-- The result of a statement that stands for its first element. -/
def firstOf (rows : List Value) : Value := rows.head?.getD .null

/-- Run a statement by name. -/
def invoke (name : String) (params : Template.Params) (cls : Option EntityClass) : Use Value := do
  let s ← resolve name
  let sql ← renderStatement s params
  let rows ← running ((← get).engine.execute sql (.known s.type) params cls)
  return if s.collapses then firstOf rows else .list rows

/-- Run free SQL. -/
def execute (sql : String) (type : TypeName) (params : Template.Params)
    (cls : Option EntityClass) : Use Value := do
  let rows ← running ((← get).engine.execute sql type params cls)
  return .list rows

/-- Send free SQL as it is. -/
def query (sql : String) (type : TypeName) (params : Template.Params) (cls : Option EntityClass) :
    Use Value := do
  let rows ← running (Engine.query sql type params cls)
  return .list rows

/-- Read a page of free SQL. -/
def selectPage (sql : String) (p : Paging) (params : Template.Params) :
    StateM Gateway PageOutcome := do
  inSession ((← get).engine.paginate sql p params)

/-- The text of a statement by name that has pages. -/
def pageText (name : String) (params : Template.Params) : Use String := do
  let s ← resolve name
  if s.type ≠ .select then throw (.refused (.notSelect name))
  renderStatement s params

/-- Read a page of a statement by name. -/
def invokePage (name : String) (p : Paging) (params : Template.Params) :
    StateM Gateway PageOutcome := do
  match ← (pageText name params).run with
  | .error e => return { page := p, error := some e }
  | .ok sql => selectPage sql p params

end Gateway
end SqlMapper
