import SqlMapper.Template.Access
/-!
# SqlMapper.Template.Frame

Frames: the values of the variables of one scope that has been entered. A list of frames, the
innermost first, is what code runs in; a place counts frames outwards and then names a slot.

A slot may have no value yet. Reading it gives an absent value that remembers the variable's name,
so that only a use of the value fails.
-/

namespace SqlMapper.Template

/-- The frames that code runs in, the innermost first. -/
abbrev Frames := List Nat

namespace Place

/-- What a place holds, if anything. -/
def contents (frames : Frames) (p : Place) : Run (Option Value) :=
  match frames[p.depth]? with
  | some ref => Store.slot ref p.slot
  | none => return none

/-- The value at a place. -/
def read (ctx : Context) (frames : Frames) (p : Place) : Run Value := do
  return (← p.contents frames).getD (ctx.absent (.variable p.name))

/-- Put a value at a place. -/
def write (frames : Frames) (p : Place) (v : Value) : Run Unit :=
  match frames[p.depth]? with
  | some ref => Store.setSlot ref p.slot v
  | none => return ()

end Place

/-- The outermost frame of a run. -/
def rootFrame : Nat := 0

/-- The first value of a slot. -/
def Origin.initial (ctx : Context) (frames : Frames) : Origin → Run (Option Value)
  | given | unset => return none
  | itself => return some .selfReference
  | outside i => return (ctx.outside[i]?).join
  | copied p => p.contents frames
  | exported slot i => do return (← Store.slot rootFrame slot).or (ctx.outside[i]?).join

namespace Scope

/-- Enter a scope: a new frame for it. -/
def enter (ctx : Context) (frames : Frames) (scope : Scope) : Run Nat := do
  Store.alloc (.frame (← scope.mapM (Origin.initial ctx frames)))

/-- Enter a scope again in the frame that it already has. -/
def renew (ctx : Context) (frames : Frames) (scope : Scope) (ref : Nat) : Run Unit := do
  Store.put ref (.frame (← scope.mapM (Origin.initial ctx frames)))

end Scope

/-- The elements that are to be assigned to a number of targets. -/
def unpack (n : Nat) (v : Value) : Run (List Value) := do
  match v with
  | .cell (.stream _) ref => checkCount (← Store.drain ref)
  | v =>
    match v.items with
    | .ok xs => checkCount xs
    | .error (.missing why) => fail (.missing why)
    | .error _ => fail (.other .type ("cannot unpack non-iterable " ++ v.typeName ++ " object"))
where
  /-- Are there as many elements as targets? -/
  checkCount (xs : List Value) : Run (List Value) := do
    if xs.length < n then
      fail (.other .value ("not enough values to unpack (expected " ++ toString n ++ ", got " ++
        toString xs.length ++ ")"))
    if n < xs.length then
      fail (.other .value ("too many values to unpack (expected " ++ toString n ++ ")"))
    return xs

/-- Set a field of a record. -/
def setField (record : Value) (name : String) (v : Value) : Run Unit := do
  let refused : Run Unit :=
    fail (.other .type ("'" ++ record.typeName ++ "' object does not support item assignment"))
  match record with
  | .cell .record ref =>
    match ← Store.get ref with
    | .record fields =>
      let fields :=
        if fields.any (·.1 == name) then fields.map fun (k, x) => (k, if k == name then v else x)
        else fields ++ [(name, v)]
      Store.put ref (.record fields)
    | _ => refused
  | _ => refused

mutual

/-- Assign a value to a target. -/
def Target.assign (ctx : Context) (frames : Frames) (v : Value) : Target Place → Run Unit
  | .var p => p.write frames v
  | .field r name => do setField (← r.read ctx frames) name v
  | .tuple ts => do
    let xs ← unpack ts.length v
    assignAll ctx frames xs ts

/-- Assign values to targets, one each. -/
def assignAll (ctx : Context) (frames : Frames) (xs : List Value) :
    List (Target Place) → Run Unit
  | [] => return ()
  | t :: ts => do
    t.assign ctx frames (xs.headD .null)
    assignAll ctx frames xs.tail ts

end

mutual

/-- Check that the fields a target names are fields of records. -/
def Target.checkRecords (ctx : Context) (frames : Frames) : Target Place → Run Unit
  | .var _ => return ()
  | .field r _ => do
    match ← r.read ctx frames with
    | .cell .record _ => return ()
    | _ => fail (.template "cannot assign attribute on non-namespace object")
  | .tuple ts => checkAllRecords ctx frames ts

/-- Check several targets. -/
def checkAllRecords (ctx : Context) (frames : Frames) : List (Target Place) → Run Unit
  | [] => return ()
  | t :: ts => do
    t.checkRecords ctx frames
    checkAllRecords ctx frames ts

end

end SqlMapper.Template
