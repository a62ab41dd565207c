import SqlMapper.Engine.QueryType
import SqlMapper.Log
import SqlMapper.Mapper.Document
import SqlMapper.Template.Render
/-!
# SqlMapper.Mapper.Statement

Named statements, and the table of them that a mapping document stands for (`Table.ofDocument`).
The entries of a document are gone through in order; those of a known kind give one statement for
each of their items, and the first item that gives none fails the whole table.
-/

namespace SqlMapper.Mapper

/-- A statement. -/
structure Statement where
  name : Value
  type : QueryType
  /-- Its body, as it stands in the document. -/
  source : Value
  template : Template
  /-- Does a result stand for its first element? -/
  single : Bool

namespace Statement

/-- Is a result reduced to its first element? -/
def collapses (s : Statement) : Bool := s.single || s.type == .raw

/-- The text of a statement with parameters. -/
def render (s : Statement) (params : Template.Params) : Except Template.RenderError String :=
  s.template.render params

end Statement

/-- A table of statements, in the order of the document. -/
abbrev Table := List Statement

/-- The statement of a given name. -/
def Table.get? (t : Table) (name : Value) : Option Statement :=
  t.find? fun s => Value.sameKey name s.name

/-- Why a document has no table. -/
inductive DocumentError
  /-- The document cannot be read. -/
  | unreadable (path : String)
  /-- The document cannot be had, for a reason in words. -/
  | withheld (reason : String)
  /-- An item under a key has no name. -/
  | unnamed (key : String)
  /-- Two items have one name, here as a text. -/
  | duplicate (name : String)
  | compile (e : Template.CompileError)
  /-- A name that cannot be one. -/
  | failure (e : Failure)
  deriving Repr, DecidableEq

/-- The wording of a document error. -/
def DocumentError.message : DocumentError → String
  | unreadable path => "cannot parse mapping document " ++ path
  | withheld reason => reason
  | unnamed key => "<" ++ key ++ "> element without an id attribute"
  | duplicate name => "duplicate statement id: " ++ name
  | compile e => e.message
  | failure e => e.message

/-- What a document's templates are compiled with. -/
structure Setting where
  context : List (String × Value)
  strict : Bool

/-- The entry of an item that gives the statement its name. -/
def nameKey : String := "id"

/-- The entry of an item that says whether its result stands for its first element. -/
def singleKey : String := "single"

/-- The value of an item's entry. -/
def part? (item : Value) (key : String) : Option Value :=
  match item with
  | .dict es => Value.lookup? (.str key) es
  | _ => none

/-- Does a value say yes? -/
def saysTrue (v : Value) : Bool :=
  match v.text? with
  | some s => Text.lower (Text.trim s.toList) == "true".toList
  | none => false

/-- The kind of statements that a key stands for. -/
def statementType? (key : String) : Option QueryType :=
  match QueryType.ofName? (String.ofList (Text.upper key.toList)) with
  | some .select => some .select
  | some .raw => some .raw
  | _ => none

/-- How messages show a body that is no text, given its text. Such a body cannot be cut off, so a long one
cannot be shown. -/
def bodyPreview (body : Value) (text : String) : Result String :=
  match body with
  | .list xs => if 300 < xs.length then .error (.concatenation "list" "str") else .ok text
  | .dict es => if 300 < es.length then .error (.unhashable "slice") else .ok text
  | _ => .ok text

/-- The template of a body that is no text, by its text. The preview is looked for only if there is a fault
to report. -/
def compileText (setting : Setting) (body : Value) (text : String) : Except Template.CompileError Template :=
  match bodyPreview body text with
  | .ok preview => Template.compile text setting.context setting.strict preview
  | .error e =>
    match Template.compile text setting.context setting.strict text with
    | .error (.faulty _ _) => .error (.failure e)
    | compiled => compiled

/-- The template of a body; one that is no text is taken by its text. -/
def compileBody (setting : Setting) (body : Value) : Except DocumentError Template :=
  let compiled : Except Template.CompileError Template :=
    match body.text? with
    | some s => Template.compile s setting.context setting.strict
    | none =>
      match body.text with
      | .ok s => compileText setting body s
      | .error e => .error (.failure e)
  match compiled with
  | .ok t => .ok t
  | .error e => .error (.compile e)

/-- The name of an item: a true value that can be looked up. -/
def itemName (key : String) (item : Value) : Except DocumentError Value :=
  match part? item nameKey with
  | none => .error (.unnamed key)
  | some name =>
    match name.truth with
    | .ok true =>
      match name.hashable with
      | .ok _ => .ok name
      | .error e => .error (.failure e)
    | _ => .error (.unnamed key)

/-- The statement of an item, behind those of the table so far. -/
def addItem (setting : Setting) (key : String) (type : QueryType) (table : Table) (item : Value) :
    Except DocumentError Table := do
  let name ← itemName key item
  if (table.get? name).isSome then
    throw (.duplicate (match name.text with
      | .ok s => s
      | .error _ => ""))
  let source := (part? item textKey).getD (.str "")
  let template ← compileBody setting source
  let single := ((part? item singleKey).map saysTrue).getD false
  let statement : Statement := { name, type, source, template, single }
  return table ++ [statement]

/-- The items of an entry: those of a list, or the entry itself. -/
def entryItems (v : Value) : List Value :=
  match v with
  | .list xs => xs
  | v => [v]

/-- Go through the entries of a document, with the table so far. -/
def addEntries (setting : Setting) (table : Table) :
    Document → List Event × Except DocumentError Table
  | [] => ([], .ok table)
  | (key, v) :: rest =>
    match statementType? key with
    | none =>
      let (events, result) := addEntries setting table rest
      (.unknownType key :: events, result)
    | some type =>
      match (entryItems v).foldlM (addItem setting key type) table with
      | .ok table => addEntries setting table rest
      | .error e => ([], .error e)

/-- The table of a document, and what is logged on the way. -/
def Table.ofDocument (setting : Setting) (d : Document) :
    List Event × Except DocumentError Table :=
  addEntries setting [] d

end SqlMapper.Mapper
