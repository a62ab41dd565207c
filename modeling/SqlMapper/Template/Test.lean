import SqlMapper.Template.Access
import SqlMapper.Value.Arithmetic
import SqlMapper.Sql.Literal
/-!
# SqlMapper.Template.Test

The questions a template may ask of a value with `is`. Only the questions whether a value is there
never fail.
-/

namespace SqlMapper.Template

/-- The names of the tests. -/
def testNames : List String :=
  ["odd", "even", "divisibleby", "defined", "undefined", "filter", "test", "none", "boolean",
    "false", "true", "integer", "float", "lower", "upper", "string", "mapping", "number",
    "sequence", "iterable", "callable", "sameas", "escaped", "in", "==", "eq", "equalto", "!=",
    "ne", ">", "gt", "greaterthan", "ge", ">=", "<", "lt", "lessthan", "<=", "le"]

/-- The names of the filters. -/
def filterNames : List String :=
  ["abs", "attr", "batch", "capitalize", "center", "count", "d", "default", "dictsort", "e",
    "escape", "filesizeformat", "first", "float", "forceescape", "format", "groupby", "indent",
    "int", "join", "last", "length", "list", "lower", "items", "map", "min", "max", "pprint",
    "random", "reject", "rejectattr", "replace", "reverse", "round", "safe", "select", "selectattr",
    "slice", "sort", "string", "striptags", "sum", "title", "trim", "truncate", "unique", "upper",
    "urlencode", "urlize", "wordcount", "wordwrap", "xmlattr", "tojson", "sql_string", "sql_int",
    "sql_float", "sql_bool", "in_list", "sql_like_start", "sql_raw"]

/-- Is a value there? -/
def isDefined : Value → Bool
  | .absent .. => false
  | _ => true

/-- Are two values one and the same? -/
def isSame (a b : Value) : Bool := a.typeName == b.typeName && Value.sameKey a b

/-- Can a value be iterated over? -/
def isIterable (v : Value) : Result Bool :=
  match v with
  | .absent true why => .error (.missing why)
  | .cell (.stream _) _ => .ok true
  | v =>
    match v.items with
    | .ok _ => .ok true
    | .error _ => .ok false

/-- Has a value a length and numbered or named elements? -/
def isSequence : Value → Bool
  | .str _ | .sql _ | .bytes _ | .list _ | .tuple _ | .dict _ | .readOnly _ | .range .. => true
  | .absent strict _ => !strict
  | _ => false

/-- Can a value be called? -/
def isCallable : Value → Bool
  | .function _ | .method .. | .snippet .. | .cls _ => true
  | .cell .loop _ | .cell .joiner _ | .absent .. => true
  | _ => false

/-- The comparison that a test name stands for. -/
def comparisonTest? : String → Option CompareOp
  | "==" | "eq" | "equalto" => some .eq
  | "!=" | "ne" => some .ne
  | ">" | "gt" | "greaterthan" => some (.order .gt)
  | ">=" | "ge" => some (.order .ge)
  | "<" | "lt" | "lessthan" => some (.order .lt)
  | "<=" | "le" => some (.order .le)
  | "in" => some .isIn
  | _ => none

/-- The outcome of a comparison. -/
def CompareOp.apply : CompareOp → Value → Value → Result Bool
  | .eq, a, b => a.eq b
  | .ne, a, b => (!·) <$> a.eq b
  | .order op, a, b => a.ordered op b
  | .isIn, a, b => a.isIn b
  | .notIn, a, b => (!·) <$> a.isIn b

/-- Ask a question of a value. -/
def applyTest (name : String) (v : Value) (args : List Value) : Result Bool := do
  let first : Result Value :=
    match args with
    | a :: _ => .ok a
    | [] => .error (.other .type ("test_" ++ name ++ "() missing 1 required positional argument"))
  let remainder (d : Value) : Result Value := v.arith .mod d
  match name with
  | "defined" => return isDefined v
  | "undefined" => return !isDefined v
  | "none" => return match v with | .null => true | _ => false
  | "boolean" => return match v with | .bool _ => true | _ => false
  | "true" => return match v with | .bool b => b | _ => false
  | "false" => return match v with | .bool b => !b | _ => false
  | "integer" => return match v with | .int _ => true | _ => false
  | "float" => return match v with | .float _ => true | _ => false
  | "number" => return v.numeric?.isSome
  | "string" => return v.text?.isSome
  | "mapping" => return match v with | .dict _ | .readOnly _ => true | _ => false
  | "sequence" => return isSequence v
  | "iterable" => isIterable v
  | "callable" => return isCallable v
  | "escaped" => return false
  | "odd" => (← remainder (.int 2)).eq (.int 1)
  | "even" => (← remainder (.int 2)).eq (.int 0)
  | "divisibleby" => (← remainder (← first)).eq (.int 0)
  | "sameas" => return isSame v (← first)
  | "filter" => return (v.text?).any filterNames.contains
  | "test" => return (v.text?).any testNames.contains
  | "lower" =>
    let cs := (← v.text).toList
    return cs.any Text.isCased && Text.lower cs == cs
  | "upper" =>
    let cs := (← v.text).toList
    return cs.any Text.isCased && Text.upper cs == cs
  | name =>
    match comparisonTest? name with
    | some op => op.apply v (← first)
    | none => throw (.template ("No test named " ++ Text.quoted name ++ "."))

end SqlMapper.Template
