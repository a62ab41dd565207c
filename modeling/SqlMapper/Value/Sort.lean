import SqlMapper.Value.Comparison
/-!
# SqlMapper.Value.Sort

Stable sorting by keys whose comparison may fail. Which comparisons are made, and in which order,
decides which failure is met, so it is fixed: the longest run at the front is taken as it is
(reversed if it descends), and each further element is put in its place by halving.
-/

namespace SqlMapper.Value

/-- A value with the key that it is sorted by. -/
abbrev Keyed := Value × Value

/-- Does one element belong strictly before another? -/
def before (a b : Keyed) : Result Bool := ordered .lt a.1 b.1

/-- How many elements, the first apart, continue a run that descends strictly or does not. -/
def runLength (descending : Bool) (last : Keyed) : List Keyed → Result Nat
  | [] => .ok 0
  | x :: xs => do
    if (← before x last) == descending then return (← runLength descending x xs) + 1 else return 0

/-- The place for an element among sorted ones, behind those that are equal to it. The fuel exceeds
the number of halvings. -/
def findPlace (x : Keyed) (sorted : Array Keyed) : Nat → Nat → Nat → Result Nat
  | 0, lo, _ => .ok lo
  | fuel + 1, lo, hi => do
    if hi ≤ lo then return lo
    let mid := lo + (hi - lo) / 2
    match sorted[mid]? with
    | none => return lo
    | some y =>
      if ← before x y then findPlace x sorted fuel lo mid else findPlace x sorted fuel (mid + 1) hi

/-- Put an element among sorted ones. -/
def insertSorted (sorted : Array Keyed) (x : Keyed) : Result (Array Keyed) := do
  let i ← findPlace x sorted (sorted.size + 1) 0 sorted.size
  return (sorted.toList.take i ++ x :: sorted.toList.drop i).toArray

/-- Sort by keys. -/
def sortKeyed (xs : List Keyed) : Result (List Keyed) := do
  match xs with
  | [] => return []
  | [x] => return [x]
  | x :: y :: rest =>
    let descending ← before y x
    let n := (← runLength descending y rest) + 2
    let run := xs.take n
    let sorted ← (xs.drop n).foldlM insertSorted
      (if descending then run.reverse else run).toArray
    return sorted.toList

/-- Sort values by keys; in reverse, equal elements keep their order too. -/
def sortBy (key : Value → Result Value) (reverse : Bool) (xs : List Value) :
    Result (List Value) := do
  let keyed ← xs.mapM fun x => do return (← key x, x)
  let sorted ← sortKeyed (if reverse then keyed.reverse else keyed)
  return (if reverse then sorted.reverse else sorted).map (·.2)

/-- The first element that no other goes before; with `greatest`, that goes before no other. -/
def extreme (greatest : Bool) : Keyed → List Keyed → Result Value
  | best, [] => .ok best.2
  | best, x :: xs => do
    let better ← if greatest then ordered .gt x.1 best.1 else ordered .lt x.1 best.1
    extreme greatest (if better then x else best) xs

end SqlMapper.Value
