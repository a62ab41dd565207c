import SqlMapper.Template.Args
import SqlMapper.Template.Frame
import SqlMapper.Sql.Bind
/-!
# SqlMapper.Template.Call

The functions a template can call that are no pieces of the template: those known by name, methods
of values, and what hangs on a loop's variable.
-/

namespace SqlMapper.Template

open Value (ofEntries)

/-- A function that takes exactly what it is given by position. -/
def Args.noneNamed (fn : String) (a : Args) : Result Unit :=
  if a.named.isEmpty then .ok ()
  else .error (.other .type (fn ++ "() takes no keyword arguments"))

/-- A range of integers. -/
def makeRange (a : Args) : Result Value := do
  a.noneNamed "range"
  match a.positional with
  | [] => throw (.other .type "range expected at least 1 argument, got 0")
  | [stop] => return .range 0 (← stop.toIndex) 1
  | [start, stop] => return .range (← start.toIndex) (← stop.toIndex) 1
  | [start, stop, step] =>
    let start ← start.toIndex
    let stop ← stop.toIndex
    let step ← step.toIndex
    if step = 0 then throw (.other .value "range() arg 3 must not be zero")
    return .range start stop step
  | xs =>
    throw (.other .type ("range expected at most 3 arguments, got " ++ toString xs.length))

/-- The entry that a pair stands for. -/
def pairEntry (i : Nat) (pair : Value) : Run (Value × Value) := do
  match pair with
  | .cell (.stream _) ref => ofItems (← Store.drain ref)
  | pair =>
    match pair.items with
    | .ok xs => ofItems xs
    | .error (.missing why) => fail (.missing why)
    | .error _ =>
      fail (.other .type ("cannot convert dictionary update sequence element #" ++ toString i ++
        " to a sequence"))
where
  /-- The entry of two elements. -/
  ofItems (xs : List Value) : Run (Value × Value) := do
    match xs with
    | [k, v] =>
      liftResult k.hashable
      return (k, v)
    | xs =>
      fail (.other .value ("dictionary update sequence element #" ++ toString i ++ " has length " ++
        toString xs.length ++ "; 2 is required"))

/-- The entries that a mapping is made of: those of another mapping or of pairs, then named ones. -/
def gatherEntries (a : Args) : Run (List (Value × Value)) := do
  let first ← match a.positional with
    | [] => pure []
    | [.dict es] | [.readOnly es] => pure es
    | [v] => (← Store.items v).zipIdx.mapM fun (pair, i) => pairEntry i pair
    | xs =>
      fail (.other .type ("dict expected at most 1 argument, got " ++ toString xs.length))
  return ofEntries (first ++ a.named.map fun (k, v) => (Value.str k, v))

/-- The items that helper functions read from an argument. -/
def helperItems (sep : Option Value) (v : Value) : Run (List Value) := do
  match sep with
  | none | some (.str _) | some (.sql _) => Store.items v
  | some (.absent _ why) => fail (.missing why)
  | some s => fail (.other .attribute ("'" ++ s.typeName ++ "' object has no attribute 'join'"))

/-- Call a function that is known by name. -/
def callBuiltIn (f : BuiltIn) (a : Args) : Run Value := do
  let arr : Param := { name := "name", default := some (.str "arr") }
  match f with
  | .range => liftResult (makeRange a)
  | .dict => return .dict (← gatherEntries a)
  | .record =>
    let fields ← (← gatherEntries a).mapM fun (k, v) => do
      return (← liftResult k.text, v)
    return .cell .record (← Store.alloc (.record fields))
  | .cycler =>
    if a.positional.isEmpty then
      fail (.other .runtime "at least one item has to be provided")
    return .cell .cycler (← Store.alloc (.cycler a.positional 0))
  | .joiner =>
    let sep := (a.get? 0 "sep").getD (.str ", ")
    return .cell .joiner (← Store.alloc (.joiner sep false))
  | .lipsum => return .str ""
  | .bindList =>
    match ← liftResult (a.fill "join"
      [{ name := "array" }, { name := "sep", default := some (.str ",") }, arr]) with
    | [array, sep, name] =>
      let xs ← helperItems (some sep) array
      let sep ← liftResult sep.text
      if xs.isEmpty then return .sql ""
      return .sql (Sql.bindList sep (← liftResult name.text) xs.length)
    | _ => return .sql ""
  | .bindMap =>
    match ← liftResult (a.fill "array_to_obj" [{ name := "array" }, arr]) with
    | [array, name] =>
      let xs ← helperItems none array
      if xs.isEmpty then return .dict []
      let name ← liftResult name.text
      return .dict ((Sql.bindMap name xs).map fun (k, v) => (.str k, v))
    | _ => return .dict []
  | .projection =>
    match ← liftResult (a.fill "field_attribute_map" [{ name := "model" }]) with
    | [.cls c] =>
      if c.isMapped then return .sql c.projection
      fail (.noInspection (Value.cls c).fullTypeName)
    | [.absent _ why] => fail (.missing why)
    | [.entity c fs] =>
      if c.isMapped then
        fail (.other .attribute "'InstanceState' object has no attribute 'column_attrs'")
      fail (.noInspection (Value.entity c fs).fullTypeName)
    | vs => fail (.noInspection (vs.headD .null).fullTypeName)

/-- Call what hangs on a loop's variable. -/
def callLoopMethod (ref : Nat) (s : LoopState) (name : String) (args : List Value) :
    Run Value := do
  match name with
  | "cycle" =>
    match args[s.index % args.length]? with
    | some v => return v
    | none => fail (.other .type "no items for cycling given")
  | _ =>
    let same ← match s.last with
      | none => pure false
      | some before => liftResult ((Value.tuple before).eq (.tuple args))
    if same then return .bool false
    Store.put ref (.loop { s with last := some args })
    return .bool true

/-- Call a method of a value. Streams among the arguments are read first. -/
def callMethod (receiver : Value) (name : String) (a : Args) : Run Value := do
  match receiver with
  | .cell _ ref =>
    match ← Store.get ref with
    | .loop s => callLoopMethod ref s name a.positional
    | .cycler xs next =>
      if name == "reset" then
        Store.put ref (.cycler xs 0)
        return .null
      Store.put ref (.cycler xs ((next + 1) % xs.length))
      return (xs[next]?).getD .null
    | _ => fail (.notCallable "method")
  | v =>
    let args ← a.positional.mapM fun x => match x with
      | .cell (.stream _) ref => do return Value.list (← Store.drain ref)
      | x => pure x
    liftResult (v.callMethod name args a.named)

/-- Call a joiner: empty at first, then its separator. -/
def callJoiner (ref : Nat) : Run Value := do
  match ← Store.get ref with
  | .joiner sep used =>
    if used then return sep
    Store.put ref (.joiner sep true)
    return .str ""
  | _ => return .null

end SqlMapper.Template
