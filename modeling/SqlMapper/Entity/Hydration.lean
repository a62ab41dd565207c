import SqlMapper.Validation
import SqlMapper.Entity.Catalogue
/-!
# SqlMapper.Entity.Hydration

Entities from rows. A validated class takes the fields it knows from a row and checks each; a plain
class takes the row as it is, so the row has to fit its parameters.
-/

namespace SqlMapper

open Validation

/-- Why a row is no entity. -/
inductive HydrationError
  | invalid (issues : List Issue)
  | failure (e : Failure)
  deriving Repr, DecidableEq

namespace EntityClass

/-- The default of a field as a value. -/
def defaultValue? (f : Field) : Option Value :=
  match f.default with
  | .required => none
  | .empty => some .null
  | .integer n => some (.int n)

/-- Check a value against the type of a field. -/
def checkValue (f : Field) (v : Value) : Checked Value :=
  match f.optional, v with
  | true, .null => .ok .null
  | _, v =>
    match f.type with
    | .integer => .int <$> integer v
    | .text => .str <$> text f.maxLength v

/-- The validated entity of named values. -/
def validate (c : EntityClass) (values : List (String × Value)) : Except (List Issue) Value :=
  let checked := c.fields.map fun f =>
    (f.name, field values f.name (defaultValue? f) (checkValue f))
  match checked.flatMap fun (_, r) => issue? r with
  | [] => .ok (.entity c (checked.map fun (name, r) =>
      (name, match r with
        | .ok v => v
        | .error _ => .null)))
  | issues => .error issues

/-- The entity of a plain class, constructed from named values. -/
def construct (c : EntityClass) (values : List (String × Value)) : Result Value := do
  let call := c.name ++ ".__init__()"
  match values.find? fun (k, _) => (c.field? k).isNone with
  | some (k, _) =>
    throw (.other .type (call ++ " got an unexpected keyword argument " ++ Text.quoted k))
  | none => pure ()
  let missing := c.fields.filter fun f =>
    (values.lookup f.name).isNone && (defaultValue? f).isNone
  match missing with
  | [] => pure ()
  | f :: _ =>
    throw (.other .type (call ++ " missing 1 required positional argument: " ++
      Text.quoted f.name))
  return .entity c (c.fields.map fun f =>
    (f.name, (values.lookup f.name).getD ((defaultValue? f).getD .null)))

/-- The entity of a row. -/
def hydrate (c : EntityClass) (values : List (String × Value)) : Except HydrationError Value :=
  match c.kind with
  | .plain =>
    match c.construct values with
    | .ok v => .ok v
    | .error e => .error (.failure e)
  | _ =>
    match c.validate values with
    | .ok v => .ok v
    | .error issues => .error (.invalid issues)

end EntityClass
end SqlMapper
