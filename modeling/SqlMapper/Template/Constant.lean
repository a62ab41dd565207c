import SqlMapper.Template.Exec
/-!
# SqlMapper.Template.Constant

Expressions whose value is known without any variable. They are worked out when a template is linked:
printed ones become text, and inside others a filter or test that does not exist goes unnoticed if
the value is known without it, as in a disjunction that is true from its left side.

A value is worked out as in a run, except that a variable or a call ends the attempt, just as the end
of the fuel does. A failure ends it too, so that it is met in the run, unless it arises in asking for
the truth or the text of a value.
-/

namespace SqlMapper.Template

/-- The context in which constants are worked out. -/
def constantContext (strict : Bool) : Context := ⟨default, [], strict⟩

/-- The filters that look at what is around them. -/
def contextFilters : List String :=
  ["map", "select", "reject", "selectattr", "rejectattr", "random"]

/-- Can an expression be constant, as far as its outermost operation goes? -/
def mayBeConstant : Code → Bool
  | .var _ | .call .. => false
  | .filter name e _ _ => e.isSome && filterNames.contains name && !contextFilters.contains name
  | .test name _ _ _ => testNames.contains name
  | _ => true

/-- Does a failure in an expression's outermost operation stand at once? -/
def failsAtOnce : Code → Bool
  | .and .. | .or .. | .choice .. | .concat _ => true
  | _ => false

/-- The value of a constant expression; the attempt for any other ends without one. -/
def evalConstant (ctx : Context) : Nat → Code → Run Value
  | 0, _ => throw .outOfFuel
  | fuel + 1, e =>
    if !mayBeConstant e then throw .outOfFuel
    else
      let meaning : Meaning := ⟨fun _ => evalConstant ctx fuel, fun _ _ => throw .outOfFuel⟩
      match e with
      | .choice test yes none _ => do
        if ← liftResult (← meaning.eval [] test).truth then meaning.eval [] yes
        else throw .outOfFuel
      | e => fun s =>
        match evalExpr ctx meaning [] e s with
        | .error (.failed f) =>
          if failsAtOnce e then .error (.failed f) else .error .outOfFuel
        | r => r

mutual

/-- Is a value plain data, whose text reads back as the value? -/
def isPlainData : Value → Bool
  | .null | .bool _ | .int _ | .float _ | .str _ | .range .. => true
  | .list xs | .tuple xs | .set false xs => allPlainData xs
  | .dict es => allPlainEntries es
  | _ => false

/-- Are all values plain data? -/
def allPlainData : List Value → Bool
  | [] => true
  | x :: xs => isPlainData x && allPlainData xs

/-- Are all entries plain data? -/
def allPlainEntries : List (Value × Value) → Bool
  | [] => true
  | (k, x) :: es => isPlainData k && isPlainData x && allPlainEntries es

end

/-- How deep the expressions of a template may be nested. -/
def constantFuel : Nat := 1000

/-- Is an expression known to be plain data? -/
def isKnown (strict : Bool) (e : Code) : Bool :=
  match evalConstant (constantContext strict) constantFuel e {} with
  | .ok (v, _) => isPlainData v
  | .error _ => false

/-- The text that a printed expression has in every run, or the failure that it always is. -/
def constantText? (strict : Bool) (e : Code) : Option (Result String) :=
  match evalConstant (constantContext strict) constantFuel e {} with
  | .ok (v, _) => some (Sql.finalText v)
  | .error (.failed f) => some (.error f)
  | .error .outOfFuel => none

end SqlMapper.Template
