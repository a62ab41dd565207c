import SqlMapper.Template.Program
import SqlMapper.Value.Failure
/-!
# SqlMapper.Template.Store

What a run of a template may change: frames with the values of variables, records, sequences that
are produced as they are read, and the state of loops. A value refers to a cell by its number, and
cells are only ever added.

A run (`Run`) can end in two ways besides its result: it fails for a cause, or it runs out of fuel.
The two are kept apart.
-/

namespace SqlMapper.Template

/-- The state of a loop. -/
structure LoopState where
  /-- The loop's number in the program. -/
  code : Nat
  /-- The frames around the loop. -/
  frames : List Nat
  items : List Value
  /-- The number of the current element, from 0. -/
  index : Nat
  /-- How many loops of the same code are around it. -/
  depth : Nat
  /-- The values at the last question whether they changed. -/
  last : Option (List Value)
  deriving Inhabited

/-- Cells. -/
inductive Cell
  | frame (slots : List (Option Value))
  | record (fields : List (String × Value))
  /-- The elements to come; after them the failure, if there is one. -/
  | stream (items : List Value) (failure : Option Failure)
  | loop (s : LoopState)
  | cycler (items : List Value) (next : Nat)
  | joiner (sep : Value) (used : Bool)
  deriving Inhabited

/-- The cells of a run. -/
structure Store where
  cells : Array Cell := #[]

/-- Why a run ends without a result. -/
inductive Stop
  | failed (e : Failure)
  | outOfFuel
  deriving Repr, DecidableEq

/-- A run. -/
abbrev Run := StateT Store (Except Stop)

/-- An operation on values as a run. -/
def liftResult {α : Type} (r : Result α) : Run α :=
  match r with
  | .ok a => pure a
  | .error e => throw (.failed e)

/-- A failure as a run. -/
def fail {α : Type} (e : Failure) : Run α := throw (.failed e)

namespace Store

/-- Add a cell. -/
def alloc (c : Cell) : Run Nat := fun s =>
  .ok (s.cells.size, { cells := s.cells.push c })

/-- A cell; one that does not exist is an empty frame. -/
def get (ref : Nat) : Run Cell := fun s => .ok (s.cells.getD ref (.frame []), s)

/-- Replace a cell. -/
def put (ref : Nat) (c : Cell) : Run Unit := fun s =>
  .ok ((), { cells := s.cells.setIfInBounds ref c })

/-- The value in a slot of a frame. -/
def slot (ref slot : Nat) : Run (Option Value) := do
  match ← get ref with
  | .frame slots => return (slots[slot]?).join
  | _ => return none

/-- Put a value into a slot of a frame. -/
def setSlot (ref slot : Nat) (v : Value) : Run Unit := do
  match ← get ref with
  | .frame slots => put ref (.frame (slots.set slot (some v)))
  | _ => return ()

/-- Read what is left of a stream. -/
def drain (ref : Nat) : Run (List Value) := do
  match ← get ref with
  | .stream items failure =>
    put ref (.stream [] none)
    match failure with
    | none => return items
    | some e => fail e
  | _ => return []

/-- A stream of elements. -/
def streamOf (type : String) (items : List Value) (failure : Option Failure) : Run Value := do
  return .cell (.stream type) (← alloc (.stream items failure))

/-- The elements of a value. Reading a stream uses it up. -/
def items (v : Value) : Run (List Value) :=
  match v with
  | .cell (.stream _) ref => drain ref
  | v => liftResult v.items

end Store
end SqlMapper.Template
