import SqlMapper.Entity.Hydration
import SqlMapper.Mapper.Statement
/-!
# SqlMapper.Error

What a call can end with instead of a result. A *refusal* is the library's own verdict that the call
cannot be carried out, and comes before any statement is sent; every other error arises while a
statement runs or while its result is read.
-/

namespace SqlMapper

/-- Why a call is refused. -/
inductive Refusal
  /-- There is no mapping document. -/
  | noTemplate
  | loadFailed (path : String) (cause : Mapper.DocumentError)
  /-- The mapping document has not been loaded in time. -/
  | notReady (path seconds : String)
  /-- The wait for the mapping document is over, and it is not loaded. -/
  | notLoaded (path : String)
  | unknownStatement (name : String)
  /-- Only the result of a `SELECT` has pages. -/
  | notSelect (name : String)
  /-- What was said about the kind of a statement means none, or none that the engine runs. -/
  | unsupportedType (shown : String)
  /-- A value was used in a template that is not there; with the parameters there were. -/
  | missing (why : Missing) (given : String)
  /-- A template asks for something that does not exist. -/
  | impossible (reason preview : String)
  deriving Repr, DecidableEq

/-- The wording of a refusal. -/
def Refusal.message : Refusal → String
  | noTemplate => "no template"
  | loadFailed path cause => "no template: loading " ++ path ++ " failed: " ++ cause.message
  | notReady path seconds =>
    "mapping template " ++ path ++ " not loaded after " ++ seconds ++ "s"
  | notLoaded path => "mapping template " ++ path ++ " not loaded"
  | unknownStatement name => "statement not found: " ++ name
  | notSelect name => "statement " ++ name ++ " is not a SELECT statement"
  | unsupportedType shown => "Unsupported query type: " ++ shown
  | missing why given => (Template.RenderError.missing why given).message
  | impossible reason preview => (Template.RenderError.impossible reason preview).message

/-- Why a call has no result. -/
inductive Error
  | refused (r : Refusal)
  /-- The database says so. -/
  | driver (text : String)
  /-- A row does not fit the entity class that it is read as. -/
  | invalid (issues : List Validation.Issue)
  | failure (e : Failure)
  deriving Repr, DecidableEq

/-- The error of a call whose statement cannot be rendered. -/
def Error.ofRender : Template.RenderError → Error
  | .missing why given => .refused (.missing why given)
  | .impossible reason preview => .refused (.impossible reason preview)
  | .failure e => .failure e

/-- The error of a row that is no entity. -/
def Error.ofHydration : HydrationError → Error
  | .invalid issues => .invalid issues
  | .failure e => .failure e

/-- The kind that is meant by what a caller says about it. -/
def TypeName.resolve (t : TypeName) (supported : QueryType → Bool) : Except Error QueryType :=
  match t.type?.filter supported with
  | some type => .ok type
  | none =>
    match t.shown with
    | .ok s => .error (.refused (.unsupportedType s))
    | .error e => .error (.failure e)

end SqlMapper
