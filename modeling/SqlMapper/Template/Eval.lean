import SqlMapper.Template.Call
import SqlMapper.Template.Filter
/-!
# SqlMapper.Template.Eval

The values of expressions. What an expression's parts mean is given (`Meaning`), so that nothing
here is recursive: `SqlMapper.Template.Exec` ties the knot with fuel.

Pieces of the template with parameters (`invoke`) and loops (`runLoop`) are here too, since an
expression may call them.
-/

namespace SqlMapper.Template

/-- What parts of a template mean: the value of an expression, the text of statements. -/
structure Meaning where
  eval : Frames → Code → Run Value
  exec : Frames → List Node → Run String

variable (ctx : Context) (below : Meaning)

/-! ## Calls -/

/-- Put the parameters of a snippet into its frame: by position, by name, from the defaults. -/
def fillParams (s : Snippet) (ref : Nat) (frames : Frames) (a : Args) : Run Unit := do
  let required := s.params.length - s.defaults.length
  s.params.zipIdx.forM fun (name, i) => do
    let given := if i < a.positional.length then a.positional[i]? else a.named.lookup name
    match given, s.defaults[i - required]? with
    | some v, _ => Store.setSlot ref i v
    | none, d =>
      match if i < required then none else d with
      | some d => Store.setSlot ref i (← below.eval frames d)
      | none =>
        Store.setSlot ref i (ctx.absent
          (.because ("parameter " ++ Text.quoted name ++ " was not provided")))

/-- How messages name a snippet. -/
def Snippet.title (s : Snippet) : String := (s.name.map Text.quoted).getD "None"

/-- Run a snippet with arguments. Its text is a plain text. -/
def invoke (index : Nat) (outer : Frames) (a : Args) : Run Value := do
  match ctx.program.snippets[index]? with
  | none => return .str ""
  | some s =>
    let byName := s.params.drop a.positional.length
    let left := a.named.filter fun (k, _) => !byName.contains k
    let caller := if s.callerSlot.isSome then left.lookup "caller" else none
    let left := if s.callerSlot.isSome then left.filter (·.1 != "caller") else left
    match s.namedSlot, left with
    | none, (k, _) :: _ =>
      if left.any (·.1 == "caller") then
        fail (.other .type ("macro " ++ s.title ++ " was invoked with two values for " ++
          "the special caller argument. This is most likely a bug."))
      fail (.other .type ("macro " ++ s.title ++ " takes no keyword argument " ++
        Text.quoted k))
    | _, _ => pure ()
    if s.restSlot.isNone && s.params.length < a.positional.length then
      fail (.other .type ("macro " ++ s.title ++ " takes not more than " ++
        toString s.params.length ++ " argument(s)"))
    let ref ← Scope.enter ctx outer s.scope
    let frames := ref :: outer
    if let some slot := s.callerSlot then
      Store.setSlot ref slot (match caller with
        | none | some .null => ctx.absent (.because "No caller defined")
        | some v => v)
    if let some slot := s.namedSlot then
      Store.setSlot ref slot (.dict (left.map fun (k, v) => (.str k, v)))
    if let some slot := s.restSlot then
      Store.setSlot ref slot (.tuple (a.positional.drop s.params.length))
    fillParams ctx below s ref frames a
    return .str (← below.exec frames s.body)

/-! ## Loops -/

/-- Does an element pass the condition of a loop? -/
def passes (outer : Frames) (loop : Loop) (x : Value) : Run Bool := do
  match loop.test with
  | none => return true
  | some (scope, target, test) =>
    let frames := (← Scope.enter ctx outer scope) :: outer
    target.assign ctx frames x
    liftResult (← below.eval frames test).truth

/-- One round of a loop in the frame `ref`. -/
def runRound (outer : Frames) (loop : Loop) (ref : Nat) (state : Option Nat) (x : Value) :
    Run String := do
  Scope.renew ctx outer loop.scope ref
  let frames := ref :: outer
  loop.target.assign ctx frames x
  match loop.loopSlot, state with
  | some slot, some cell => Store.setSlot ref slot (.cell .loop cell)
  | _, _ => pure ()
  below.exec frames loop.body

/-- The rounds of a loop that has no variable of its own: each element is tested when its turn
comes. Gives also whether there was a round. -/
def runPlain (outer : Frames) (loop : Loop) (ref : Nat) (xs : List Value) : Run (Bool × String) :=
  xs.foldlM (fun (ran, out) x => do
    if ← passes ctx below outer loop x then
      return (true, out ++ (← runRound ctx below outer loop ref none x))
    return (ran, out)) (false, "")

/-- The rounds of a loop that knows where it stands: the elements are chosen first. -/
def runCounted (code depth : Nat) (outer : Frames) (loop : Loop) (ref : Nat) (xs : List Value) :
    Run (Bool × String) := do
  let xs ← xs.filterM (passes ctx below outer loop)
  let cell ← Store.alloc (.loop { code, frames := outer, items := xs, index := 0, depth, last := none })
  xs.zipIdx.foldlM (fun (_, out) (x, i) => do
    match ← Store.get cell with
    | .loop s => Store.put cell (.loop { s with index := i })
    | _ => pure ()
    return (true, out ++ (← runRound ctx below outer loop ref (some cell) x))) (false, "")

/-- The elements to loop over, and the failure that ends them. -/
def loopItems (v : Value) : Run (List Value × Option Failure) := do
  match v with
  | .cell (.stream _) ref =>
    match ← Store.get ref with
    | .stream xs failure =>
      Store.put ref (.stream [] none)
      return (xs, failure)
    | _ => return ([], none)
  | v => return (← liftResult v.items, none)

/-- Run a loop over the elements of a value. -/
def runLoop (code depth : Nat) (outer : Frames) (source : Value) : Run String := do
  match ctx.program.loops[code]? with
  | none => return ""
  | some loop =>
    let (xs, failure) ← loopItems source
    let ref ← Scope.enter ctx outer loop.scope
    let (ran, out) ←
      if loop.loopSlot.isSome || loop.recursive then
        runCounted ctx below code depth outer loop ref xs
      else runPlain ctx below outer loop ref xs
    if let some e := failure then fail e
    if ran then return out
    let inner ← Scope.enter ctx outer loop.otherwiseScope
    return out ++ (← below.exec (inner :: outer) loop.otherwise)

/-- Call a loop from inside: the same loop over other elements, one level deeper. -/
def callLoop (ref : Nat) (a : Args) : Run Value := do
  match ← Store.get ref with
  | .loop s =>
    if !(ctx.program.loops[s.code]?).any (·.recursive) then
      fail (.other .type
        "The loop must have the 'recursive' marker to be called recursively.")
    match a.get? 0 "iterable" with
    | some v => return .str (← runLoop ctx below s.code (s.depth + 1) s.frames v)
    | none =>
      fail (.other .type
        "LoopContext.__call__() missing 1 required positional argument: 'iterable'")
  | _ => return .null

/-- Call a value. -/
def callValue (f : Value) (a : Args) : Run Value :=
  match f with
  | .absent _ why => fail (.missing why)
  | .function f => callBuiltIn f a
  | .method receiver name => callMethod receiver name a
  | .snippet index outer => invoke ctx below index outer a
  | .cell .joiner ref => callJoiner ref
  | .cell .loop ref => callLoop ctx below ref a
  | v => fail (.notCallable v.typeName)

/-! ## Expressions -/

/-- Arguments as they are passed. -/
def evalArgs (frames : Frames) (args : List (Passing × Code)) : Run Args :=
  args.foldlM (fun a (passing, e) => do
    let v ← below.eval frames e
    match passing with
    | .positional => return { a with positional := a.positional ++ [v] }
    | .named name => return { a with named := a.named ++ [(name, v)] }
    | .spread => return { a with positional := a.positional ++ (← Store.items v) }
    | .spreadNamed =>
      match v with
      | .dict es | .readOnly es =>
        let named ← es.mapM fun (k, x) =>
          match k.text? with
          | some name => pure (name, x)
          | none => fail (.other .type "keywords must be strings")
        return { a with named := a.named ++ named }
      | .absent _ why => fail (.missing why)
      | v => fail (.other .type ("argument after ** must be a mapping, not " ++ v.typeName)))
    {}

/-- A chain of comparisons, which ends at the first that does not hold. -/
def evalComparisons (frames : Frames) (l : Value) : List (CompareOp × Code) → Run Value
  | [] => return .bool true
  | (op, e) :: rest => do
    let r ← below.eval frames e
    if ← liftResult (op.apply l r) then evalComparisons frames r rest else return .bool false

/-- An optional part of a slice. -/
def evalBound (frames : Frames) : Option Code → Run Value
  | some e => below.eval frames e
  | none => return .null

/-- The value of an expression. -/
def evalExpr (frames : Frames) : Code → Run Value
  | .lit l => return l.value
  | .var p => p.read ctx frames
  | .tuple xs => do return .tuple (← xs.mapM (below.eval frames))
  | .list xs => do return .list (← xs.mapM (below.eval frames))
  | .dict entries => do
    let es ← entries.mapM fun (k, e) => do
      return (← below.eval frames k, ← below.eval frames e)
    es.forM fun (k, _) => liftResult k.hashable
    return .dict (Value.ofEntries es)
  | .choice test yes no line => do
    if ← liftResult (← below.eval frames test).truth then below.eval frames yes
    else match no with
      | some e => below.eval frames e
      | none =>
        return .absent false (.because ("the inline if-expression on line " ++ toString line ++
          " evaluated to false and no else section was defined."))
  | .unary .not e => do return .bool !(← liftResult (← below.eval frames e).truth)
  | .unary .negate e => do liftResult (← below.eval frames e).negate
  | .unary .plus e => do liftResult (← below.eval frames e).posit
  | .arith op l r => do
    let a ← below.eval frames l
    let b ← below.eval frames r
    liftResult (a.arith op b)
  | .and l r => do
    let a ← below.eval frames l
    if ← liftResult a.truth then below.eval frames r else return a
  | .or l r => do
    let a ← below.eval frames l
    if ← liftResult a.truth then return a else below.eval frames r
  | .compare l rest => do evalComparisons below frames (← below.eval frames l) rest
  | .concat xs => do
    let vs ← xs.mapM (below.eval frames)
    return .str (String.join (← liftResult (vs.mapM Value.text)))
  | .attribute e name => do attributeOf ctx (← below.eval frames e) name
  | .item e (.slice start stop step) => do
    let v ← below.eval frames e
    let start ← evalBound below frames start
    let stop ← evalBound below frames stop
    let step ← evalBound below frames step
    liftResult (sliceOf v start stop step)
  | .item e key => do
    let v ← below.eval frames e
    itemOf ctx v (← below.eval frames key)
  | .slice .. => return .null
  | .call f args => do
    let v ← below.eval frames f
    callValue ctx below v (← evalArgs below frames args)
  | .filter name e args _ => do
    let v ← evalBound below frames e
    let a ← evalArgs below frames args
    if filterNames.contains name then applyFilter ctx (a.positional.length + 1) name v a
    else fail (.template ("No filter named " ++ Text.quoted name ++ " found."))
  | .test name e args _ => do
    let v ← below.eval frames e
    let a ← evalArgs below frames args
    if testNames.contains name then return .bool (← liftResult (applyTest name v a.positional))
    else fail (.template ("No test named " ++ Text.quoted name ++ " found."))

end SqlMapper.Template
