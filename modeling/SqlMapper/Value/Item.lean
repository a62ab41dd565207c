import SqlMapper.Value.Comparison
/-!
# SqlMapper.Value.Item

Elements of values by index, by key and by slice. An index counts from the end if it is negative; a
slice leaves out what lies outside. What is not there is simply not found: the caller decides what a
missing element means.
-/

namespace SqlMapper

/-- A slice: start, stop and step, each possibly left open. -/
structure Slice where
  start : Option Int
  stop : Option Int
  step : Option Int
  deriving Repr, DecidableEq

namespace Slice

/-- A bound of a slice brought into the range of a sequence of length `n`. -/
def clamp (n : Nat) (backwards : Bool) (i : Int) : Int :=
  let i := if i < 0 then i + n else i
  if backwards then max (-1) (min i (n - 1)) else max 0 (min i n)

/-- The indices that a slice selects from a sequence of length `n`; nothing for a step of zero. -/
def indices? (s : Slice) (n : Nat) : Option (List Nat) :=
  let step := s.step.getD 1
  if step = 0 then none
  else
    let backwards : Bool := step < 0
    let first := match s.start with
      | some i => clamp n backwards i
      | none => if backwards then (n : Int) - 1 else 0
    let last := match s.stop with
      | some i => clamp n backwards i
      | none => if backwards then -1 else n
    some ((List.range (Value.rangeLength first last step)).map fun i : Nat =>
      (first + i * step).toNat)

end Slice

namespace Value

/-- The element of a list at an index. -/
def atIndex? {α : Type} (xs : List α) (i : Int) : Option α :=
  let i := if i < 0 then i + xs.length else i
  if i < 0 then none else xs[i.toNat]?

/-- A value as an index into a sequence. -/
def index? : Value → Option Int
  | bool b => some (if b then 1 else 0)
  | int n => some n
  | _ => none

/-- The element of a value under a key. -/
def item? (v key : Value) : Option Value :=
  match v with
  | str s | sql s => key.index?.bind fun i => (atIndex? s.toList i).map fun c => str (.singleton c)
  | bytes bs => key.index?.bind fun i => (atIndex? bs i).map fun b => int b.toNat
  | list xs | tuple xs => key.index?.bind (atIndex? xs)
  | dict es | readOnly es =>
    match key.hashable with
    | .ok _ => lookup? key es
    | .error _ => none
  | range a b s => key.index?.bind (atIndex? (rangeItems a b s))
  | _ => none

/-- The part of a value that a slice selects. -/
def slice? (v : Value) (s : Slice) : Option Value :=
  let pick {α : Type} (xs : List α) : Option (List α) :=
    (s.indices? xs.length).map fun is => is.filterMap (xs[·]?)
  match v with
  | str t | sql t => (pick t.toList).map fun cs => str (String.ofList cs)
  | bytes bs => (pick bs).map bytes
  | list xs => (pick xs).map list
  | tuple xs => (pick xs).map tuple
  | range a b step =>
    let n := rangeLength a b step
    (s.indices? n).map fun is =>
      let first : Int := is.headD 0
      let step' := (s.step.getD 1) * step
      let start := a + first * step
      range start (start + is.length * step') step'
  | _ => none

/-- Why an element is missing: a text names an attribute, any other key an element. -/
def missingItem (v key : Value) : Missing :=
  match key.text? with
  | some name => .attribute v.description name
  | none => .element v.description key.shownOrEmpty

end Value
end SqlMapper
