import SqlMapper.Template.Store
import SqlMapper.Value.Method
/-!
# SqlMapper.Template.Access

Attributes and items of values in a template. An attribute is looked for among what the value itself
has, then among its items; an item the other way round. What is found nowhere is absent, which is no
failure yet, except that nothing can be asked of an absent value.
-/

namespace SqlMapper.Template

/-- What a run knows besides its store. -/
structure Context where
  program : Program
  /-- The values of the program's externals. -/
  outside : List (Option Value)
  /-- Are absent values strict? -/
  strict : Bool

namespace Context

/-- An absent value, of the kind that this run makes. -/
def absent (ctx : Context) (why : Missing) : Value := .absent ctx.strict why

end Context

/-- The helper functions by name. -/
def helper? : String → Option BuiltIn
  | "join" => some .bindList
  | "array_to_obj" => some .bindMap
  | "field_attribute_map" => some .projection
  | _ => none

/-- An attribute of a loop's variable. -/
def loopAttribute? (ctx : Context) (ref : Nat) (s : LoopState) (name : String) : Option Value :=
  let n := s.items.length
  let i : Int := s.index
  match name with
  | "index" => some (.int (i + 1))
  | "index0" => some (.int i)
  | "revindex" => some (.int (n - i))
  | "revindex0" => some (.int (n - i - 1))
  | "first" => some (.bool (s.index == 0))
  | "last" => some (.bool (s.index + 1 == n))
  | "length" => some (.int n)
  | "depth" => some (.int (s.depth + 1))
  | "depth0" => some (.int s.depth)
  | "previtem" =>
    some (if s.index = 0 then ctx.absent (.because "there is no previous item")
      else (s.items[s.index - 1]?).getD .null)
  | "nextitem" =>
    some ((s.items[s.index + 1]?).getD (ctx.absent (.because "there is no next item")))
  | "cycle" | "changed" => some (.method (.cell .loop ref) name)
  | _ => none

/-- An attribute that a value has of itself. A mapped class has the qualified names of its fields. -/
def ownAttribute (ctx : Context) (v : Value) (name : String) : Run (Option Value) := do
  match v with
  | .absent _ why => fail (.missing why)
  | .helpers => return (helper? name).map .function
  | .entity _ fields => return fields.lookup name
  | .cls c =>
    match name with
    | "__name__" => return some (.str c.name)
    | "__tablename__" => return c.table?.map .str
    | _ => return if c.isMapped then (c.field? name).map fun f => .str (c.name ++ "." ++ f.name)
        else none
  | .range a b s =>
    match name with
    | "start" => return some (.int a)
    | "stop" => return some (.int b)
    | "step" => return some (.int s)
    | _ => return if v.hasMethod name then some (.method v name) else none
  | .snippet index _ =>
    let snippet := ctx.program.snippets[index]?
    match name with
    | "name" => return snippet.map fun s => (s.name.map .str).getD .null
    | "arguments" => return snippet.map fun s => .tuple (s.params.map .str)
    | "catch_kwargs" => return snippet.map fun s => .bool s.namedSlot.isSome
    | "catch_varargs" => return snippet.map fun s => .bool s.restSlot.isSome
    | "caller" => return snippet.map fun s => .bool s.callerSlot.isSome
    | _ => return none
  | .cell kind ref =>
    match ← Store.get ref with
    | .record fields => return fields.lookup name
    | .loop s => return loopAttribute? ctx ref s name
    | .cycler items next =>
      match name with
      | "current" => return items[next]?
      | "next" | "reset" => return some (.method (.cell kind ref) name)
      | _ => return none
    | _ => return none
  | v => return if v.hasMethod name then some (.method v name) else none

/-- The attribute of a value. -/
def attributeOf (ctx : Context) (v : Value) (name : String) : Run Value := do
  match ← ownAttribute ctx v name with
  | some a => return a
  | none => return (v.item? (.str name)).getD (ctx.absent (.attribute v.description name))

/-- The item of a value under a key. -/
def itemOf (ctx : Context) (v key : Value) : Run Value := do
  match v with
  | .absent _ why => fail (.missing why)
  | v =>
    match v.item? key with
    | some x => return x
    | none =>
      match key.text? with
      | some name =>
        match ← ownAttribute ctx v name with
        | some a => return a
        | none => return ctx.absent (v.missingItem key)
      | none => return ctx.absent (v.missingItem key)

/-- The bound of a slice. -/
def sliceBound (v : Value) : Result (Option Int) :=
  match v with
  | .null => .ok none
  | v =>
    match v.index? with
    | some n => .ok (some n)
    | none =>
      .error (.other .type "slice indices must be integers or None or have an __index__ method")

/-- The part of a value that a slice selects. -/
def sliceOf (v start stop step : Value) : Result Value := do
  match v with
  | .absent _ why => throw (.missing why)
  | .dict _ | .readOnly _ => throw (.unhashable "slice")
  | v =>
    if (v.slice? ⟨none, none, none⟩).isNone then
      throw (.other .type ("'" ++ v.typeName ++ "' object is not subscriptable"))
    let step ← sliceBound step
    let start ← sliceBound start
    let stop ← sliceBound stop
    match v.slice? ⟨start, stop, step⟩ with
    | some x => return x
    | none => throw (.other .value "slice step cannot be zero")

/-- The keys that a dotted path is made of: numbers index, words name. -/
def pathKeys (path : Value) : List Value :=
  match path with
  | .null => []
  | .str s | .sql s =>
    (Text.splitAt ['.'] none s.toList).map fun part =>
      if !part.isEmpty && part.all Text.isDigit then
        match Number.readInt part with
        | .ok n => .int n
        | _ => .str (String.ofList part)
      else .str (String.ofList part)
  | v => [v]

/-- Follow a path from a value; a default stands in for what is absent. -/
def follow (ctx : Context) (standIn : Option Value) : List Value → Value → Run Value
  | [], v => return v
  | key :: keys, v => do
    let v ← itemOf ctx v key
    match v, standIn with
    | .absent .., some d => follow ctx standIn keys d
    | v, _ => follow ctx standIn keys v

end SqlMapper.Template
