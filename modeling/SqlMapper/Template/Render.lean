import SqlMapper.Template.Folding
import SqlMapper.Template.StmtParser
import SqlMapper.Entity.Catalogue
/-!
# SqlMapper.Template.Render

Compiled SQL templates. A template is compiled once, with a context of values that every rendering
knows; it is then rendered with parameters, which go before the context and before the functions that
every template knows (`globals`).

A rendering sees only the values of the program's externals (`Template.render`). The names that a template is
said to expect are those that are looked up by what is left of it when its constants have been worked out
(`Template.parameters`).
-/

namespace SqlMapper

open Template

/-- A compiled template. -/
structure Template where
  source : String
  /-- How messages show the source. -/
  preview : String
  /-- Values that are known besides the parameters. -/
  context : List (String × Value)
  /-- Does any use of an absent value fail? -/
  strict : Bool
  program : Program
  /-- The names that the template is said to expect from its parameters. -/
  parameters : List String

namespace Template

/-- The functions that every template knows. -/
def globals : List (String × Value) :=
  [("range", .function .range), ("dict", .function .dict), ("lipsum", .function .lipsum),
    ("cycler", .function .cycler), ("joiner", .function .joiner),
    ("namespace", .function .record)]

/-- The names of the context that statements are written against. -/
def helpersName : String := "Utils"

/-- The name of the entity classes in the context that statements are written against. -/
def classesName : String := "Model"

/-- Why a template is refused. -/
inductive Refusal
  /-- It cannot be read. -/
  | malformed (f : Fault)
  /-- It can be read, but what it asks for does not exist. -/
  | unlinkable (f : Fault)
  /-- A constant in it cannot be written. -/
  | failure (e : Failure)
  deriving Repr, DecidableEq

/-- Why linking a template fails, as a refusal. -/
def Refusal.ofLink : LinkError → Refusal
  | .fault f => .unlinkable f
  | .failure e => .failure e

/-- The tree of a template's source. -/
def treeOf (source : String) : Except Refusal (List Stmt) := (parse source).mapError .malformed

/-- The program of a template's tree. -/
def Program.ofTree (strict : Bool) (body : List Stmt) : Except Refusal Program :=
  (link strict body).mapError .ofLink

/-- The program of a template's source. -/
def Program.ofSource (strict : Bool) (source : String) : Except Refusal Program := do
  Program.ofTree strict (← treeOf source)

/-- Names in ascending order. -/
def sortNames (names : List String) : List String := names.mergeSort fun a b => !(b < a)

/-- The names that a program looks up outside, known ones apart, in ascending order. -/
def Program.parameters (p : Program) (known : List String) : List String :=
  sortNames (p.externals.filter fun x => !known.contains x && (globals.lookup x).isNone)

/-- The beginning of a source, for messages. -/
def previewOf (source : String) : String :=
  if 300 < source.length then String.ofList (source.toList.take 300) ++ "..." else source

/-- Why a template cannot be compiled. -/
inductive CompileError
  | faulty (f : Fault) (preview : String)
  /-- A constant in it cannot be written. -/
  | failure (e : Failure)
  deriving Repr, DecidableEq

/-- The wording of a compile error. -/
def CompileError.message : CompileError → String
  | faulty f preview =>
    "SQL template syntax error: " ++ f.reason ++ " (line " ++ toString f.line ++
      "). Template preview:\n" ++ preview
  | failure e => e.message

/-- A refusal as a compile error. -/
def CompileError.ofRefusal (preview : String) : Refusal → CompileError
  | .malformed f | .unlinkable f => .faulty f preview
  | .failure e => .failure e

/-- Compile a template. -/
def compile (source : String) (context : List (String × Value)) (strict : Bool)
    (preview : String := previewOf source) : Except CompileError Template :=
  Except.mapError (.ofRefusal preview) do
    let body ← treeOf source
    let program ← Program.ofTree strict body
    let left ← Program.ofTree strict (foldBody strict body)
    let parameters := left.parameters (context.map (·.1))
    return { source, preview, context, strict, program, parameters }

/-- Why a template cannot be rendered. -/
inductive RenderError
  /-- A value was used that is not there; with the parameters there were. -/
  | missing (why : Missing) (given : String)
  /-- The template asks for something that does not exist. -/
  | impossible (reason preview : String)
  | failure (e : Failure)
  deriving Repr, DecidableEq

/-- The wording of a render error. -/
def RenderError.message : RenderError → String
  | missing why given =>
    "SQL template variable not found: " ++ why.message ++ ". Available params: " ++ given ++ "."
  | impossible reason preview =>
    "SQL template render error: " ++ reason ++ ". Template preview:\n" ++ preview
  | failure e => e.message

/-- The parameters that a rendering is given. -/
abbrev Params := List (Value × Value)

/-- The value of a parameter. -/
def param? (params : Params) (name : String) : Option Value := Value.lookup? (.str name) params

/-- The value of a name outside the template. -/
def lookup (t : Template) (params : Params) (name : String) : Option Value :=
  (param? params name).or ((t.context.lookup name).or (globals.lookup name))

/-- The names of parameters in ascending order, as messages show them. -/
def givenNames (params : Params) : Result String := do
  let names ← Value.sortBy .ok false (params.map (·.1))
  (Value.list names).shown

/-- How deep calls in a rendering may be nested. -/
def renderFuel : Nat := 4000

/-- The error of a rendering that ends without a text. -/
def errorOf (t : Template) (params : Params) : Stop → RenderError
  | .outOfFuel => .failure (.other .recursion "maximum recursion depth exceeded")
  | .failed (.missing why) =>
    match givenNames params with
    | .ok given => .missing why given
    | .error e => .failure e
  | .failed (.template reason) => .impossible reason t.preview
  | .failed e => .failure e

/-- The text of a template with parameters. -/
def render (t : Template) (params : Params) : Except RenderError String :=
  let ctx : Context := ⟨t.program, t.program.externals.map (t.lookup params), t.strict⟩
  match ctx.run renderFuel with
  | .ok text => .ok text
  | .error stop => .error (t.errorOf params stop)

/-- How a compiled template is shown. -/
def shown (t : Template) : String := "SqlRenderer(" ++ Text.quoted t.preview ++ ")"

/-- The context that statements are written against: the helper functions, and the entity classes
under their names. -/
def statementContext (classes : Value) : List (String × Value) :=
  [(helpersName, .helpers), (classesName, classes)]

/-- Entity classes by name. -/
def classEntries (cs : List EntityClass) : List (Value × Value) :=
  cs.map fun c => (.str c.name, .cls c)

/-- The context over all entity classes that are mapped to tables. -/
def catalogueContext : List (String × Value) :=
  statementContext (.dict (classEntries Catalogue.mapped))

/-- Values with others laid over them. -/
def overlay (below above : List (String × Value)) : List (String × Value) :=
  above.foldl (fun acc (k, v) =>
    if acc.any (·.1 == k) then acc.map fun (k', v') => (k', if k' == k then v else v')
    else acc ++ [(k, v)]) below

end Template
end SqlMapper
