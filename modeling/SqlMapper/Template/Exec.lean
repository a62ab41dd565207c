import SqlMapper.Template.Eval
import SqlMapper.Template.Clause
/-!
# SqlMapper.Template.Exec

The text of statements, and the knot: `eval` and `exec` give every part its meaning by one unit of
fuel less. A printed value is written as SQL (`Sql.finalText`), so a text that is not finished SQL
is quoted; what a piece of the template writes is written as it is.
-/

namespace SqlMapper.Template

section Statements

variable (ctx : Context) (below : Meaning)

/-- A value that is written as it is. -/
def rawText (v : Value) : Run String :=
  match v.text? with
  | some s => return s
  | none => fail (.other .type ("sequence item 0: expected str instance, " ++ v.typeName ++ " found"))

/-- Run a body in a frame of its own. -/
def execScoped (frames : Frames) (scope : Scope) (body : List Node) : Run String := do
  let ref ← scope.enter ctx frames
  below.exec (ref :: frames) body

/-- The first body whose condition holds. -/
def execChoice (frames : Frames) (otherwise : List Node) : List (Code × List Node) → Run String
  | [] => below.exec frames otherwise
  | (test, body) :: rest => do
    if ← liftResult (← below.eval frames test).truth then below.exec frames body
    else execChoice frames otherwise rest

/-- The text of a statement. -/
def execNode (frames : Frames) : Node → Run String
  | .text s => return s
  | .print e => do liftResult (Sql.finalText (← below.eval frames e))
  | .choice test body more otherwise => execChoice below frames otherwise ((test, body) :: more)
  | .loop code => do
    match ctx.program.loops[code]? with
    | none => return ""
    | some loop => runLoop ctx below code 0 frames (← below.eval frames loop.source)
  | .assign target e => do
    target.checkRecords ctx frames
    target.assign ctx frames (← below.eval frames e)
    return ""
  | .capture scope body filter target => do
    let ref ← scope.enter ctx frames
    let out := Value.str (← below.exec (ref :: frames) body)
    let v ← match filter with
      | none => pure out
      | some (slot, e) =>
        Store.setSlot ref slot out
        below.eval (ref :: frames) e
    target.assign ctx frames v
    return ""
  | .withVars scope bindings body => do
    let ref ← scope.enter ctx frames
    bindings.forM fun (target, e) => do
      target.assign ctx (ref :: frames) (← below.eval frames e)
    below.exec (ref :: frames) body
  | .define place index => do
    place.write frames (.snippet index frames)
    return ""
  | .callBlock index call => do
    match call with
    | .call f args =>
      let v ← below.eval frames f
      let a ← evalArgs below frames args
      let caller := Value.snippet index frames
      rawText (← callValue ctx below v { a with named := a.named ++ [("caller", caller)] })
    | e => rawText (← below.eval frames e)
  | .clause kind index => do
    return clauseText kind (← rawText (← invoke ctx below index frames {}))
  | .filterBlock scope body slot filter => do
    let ref ← scope.enter ctx frames
    let out ← below.exec (ref :: frames) body
    Store.setSlot ref slot (.str out)
    rawText (← below.eval (ref :: frames) filter)
  | .escaping scope _ body => execScoped ctx below frames scope body
  | .block name required scope body => do
    if required then
      fail (.template ("Required block " ++ Text.quoted name ++ " not found"))
    let ref ← scope.enter ctx frames
    below.exec [ref] body
  | .foreign => fail (.other .type "no loader for this environment specified")

/-- The text of statements in a row. -/
def execAll (frames : Frames) (nodes : List Node) : Run String :=
  nodes.foldlM (fun out node => do return out ++ (← execNode ctx below frames node)) ""

end Statements

mutual

/-- The value of an expression. -/
def eval (ctx : Context) : Nat → Frames → Code → Run Value
  | 0, _, _ => throw .outOfFuel
  | fuel + 1, frames, e => evalExpr ctx ⟨eval ctx fuel, exec ctx fuel⟩ frames e

/-- The text of statements. -/
def exec (ctx : Context) : Nat → Frames → List Node → Run String
  | 0, _, _ => throw .outOfFuel
  | fuel + 1, frames, nodes => execAll ctx ⟨eval ctx fuel, exec ctx fuel⟩ frames nodes

end

/-- Run a whole template. -/
def Context.run (ctx : Context) (fuel : Nat) : Except Stop String :=
  let whole : Run String := do
    let root ← ctx.program.scope.enter ctx []
    exec ctx fuel [root] ctx.program.body
  match whole {} with
  | .ok (text, _) => .ok text
  | .error e => .error e

end SqlMapper.Template
