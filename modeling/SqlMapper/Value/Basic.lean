import SqlMapper.Entity.Basic
import SqlMapper.Text.Quoted
/-!
# SqlMapper.Value.Basic

The values that parameters, documents and templates are made of. Most are plain data; the others
exist only while a template runs: absent values, functions, and references to cells of the run's
store (`Cell` in `SqlMapper.Template.Store`).

An absent value remembers why it is absent (`Missing`), so that the message of a later failure can
name what was looked for, and whether it is strict: a strict one refuses every use but the question
whether it is there.
-/

namespace SqlMapper

/-- Why there is no value. -/
inductive Missing
  /-- A variable of this name was not given. -/
  | variable (name : String)
  /-- A value, here by its description, has no attribute of this name. -/
  | attribute (owner name : String)
  /-- A value, here by its description, has no element under the key of this quoted form. -/
  | element (owner key : String)
  /-- Any other reason, in words. -/
  | because (reason : String)
  deriving Repr, DecidableEq

/-- The reason as a failure states it. -/
def Missing.message : Missing → String
  | .variable name => Text.quoted name ++ " is undefined"
  | .attribute owner name => Text.quoted owner ++ " has no attribute " ++ Text.quoted name
  | .element owner key => owner ++ " has no element " ++ key
  | .because reason => reason

/-- The functions a template may call by name. -/
inductive BuiltIn
  | range
  | dict
  | lipsum
  | cycler
  | joiner
  | record
  /-- Placeholders for the items of a sequence. -/
  | bindList
  /-- The items of a sequence under their placeholders' names. -/
  | bindMap
  /-- The select list of an entity class. -/
  | projection
  deriving Repr, DecidableEq

/-- What a view of a mapping lists. -/
inductive ViewKind
  | keys
  | values
  | items
  deriving Repr, DecidableEq

/-- The kinds of cells that a value may refer to. -/
inductive CellKind
  | record
  /-- A sequence that is produced as it is read, and read once; here with its type's name. -/
  | stream (type : String)
  | loop
  | cycler
  | joiner
  deriving Repr, DecidableEq

/-- Values. -/
inductive Value
  | null
  | bool (b : Bool)
  | int (n : Int)
  | float (x : Float)
  | str (s : String)
  /-- A text that is finished SQL: it is never quoted again. -/
  | sql (s : String)
  | bytes (bs : List UInt8)
  | list (xs : List Value)
  | tuple (xs : List Value)
  | set (frozen : Bool) (xs : List Value)
  /-- A mapping in the order of insertion. -/
  | dict (entries : List (Value × Value))
  /-- A mapping that cannot be changed. -/
  | readOnly (entries : List (Value × Value))
  /-- An entity with the values of its fields. -/
  | entity (cls : EntityClass) (fields : List (String × Value))
  /-- An entity class. -/
  | cls (c : EntityClass)
  | range (start stop step : Int)
  /-- A view of a mapping. -/
  | view (kind : ViewKind) (entries : List (Value × Value))
  /-- No value, and why. -/
  | absent (strict : Bool) (why : Missing)
  /-- The collection of helper functions. -/
  | helpers
  | function (f : BuiltIn)
  /-- A method of a value, not yet called. -/
  | method (receiver : Value) (name : String)
  /-- A parametrised piece of the template, with the frames it was defined in. -/
  | snippet (index : Nat) (frames : List Nat)
  | cell (kind : CellKind) (ref : Nat)
  /-- The template's reference to itself. -/
  | selfReference
  deriving Inhabited

namespace Value

/-- The name of a value's type, as messages give it. -/
def typeName : Value → String
  | null => "NoneType"
  | bool _ => "bool"
  | int _ => "int"
  | float _ => "float"
  | str _ => "str"
  | sql _ => "SqlSafe"
  | bytes _ => "bytes"
  | list _ => "list"
  | tuple _ => "tuple"
  | set false _ => "set"
  | set true _ => "frozenset"
  | dict _ => "dict"
  | readOnly _ => "mappingproxy"
  | entity c _ => c.name
  | cls c => if c.kind = .plain then "type" else "SQLModelMetaclass"
  | range .. => "range"
  | view .keys _ => "dict_keys"
  | view .values _ => "dict_values"
  | view .items _ => "dict_items"
  | absent false _ => "Undefined"
  | absent true _ => "StrictUndefined"
  | helpers => "types.SimpleNamespace"
  | function .range => "type"
  | function .dict => "type"
  | function .cycler => "type"
  | function .joiner => "type"
  | function .record => "type"
  | function _ => "function"
  | method .. => "builtin_function_or_method"
  | snippet .. => "Macro"
  | cell .record _ => "Namespace"
  | cell (.stream type) _ => type
  | cell .loop _ => "LoopContext"
  | cell .cycler _ => "Cycler"
  | cell .joiner _ => "Joiner"
  | selfReference => "TemplateReference"

/-- A value's type as the owner of a missing attribute. -/
def description : Value → String
  | null => "None"
  | sql _ => "sqldao.engines.sql.filters.SqlSafe object"
  | snippet .. => "jinja2.runtime.Macro object"
  | cell .loop _ => "jinja2.runtime.LoopContext object"
  | cell .record _ => "jinja2.utils.Namespace object"
  | cell .cycler _ => "jinja2.utils.Cycler object"
  | cell .joiner _ => "jinja2.utils.Joiner object"
  | selfReference => "jinja2.runtime.TemplateReference object"
  | v => v.typeName ++ " object"

/-- A value's type with its full name. -/
def fullTypeName : Value → String
  | null => "NoneType"
  | cls c => if c.kind = .plain then "type" else "sqlmodel.main.SQLModelMetaclass"
  | absent false _ => "jinja2.runtime.Undefined"
  | absent true _ => "jinja2.runtime.StrictUndefined"
  | v => String.ofList (v.description.toList.take (v.description.length - 7))

/-- The text of a string, finished SQL or not. -/
def text? : Value → Option String
  | str s => some s
  | sql s => some s
  | _ => none

end Value
end SqlMapper
