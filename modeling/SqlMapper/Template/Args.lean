import SqlMapper.Value.Method
/-!
# SqlMapper.Template.Args

The arguments of a call, by position and by name, and how they fill the parameters of a function
(`Args.fill`): first by position, then by name, then from the defaults.
-/

namespace SqlMapper.Template

/-- Arguments by position and by name. -/
structure Args where
  positional : List Value := []
  named : List (String × Value) := []
  deriving Inhabited

/-- A parameter of a function. -/
structure Param where
  name : String
  default : Option Value := none
  deriving Inhabited

namespace Args

/-- The argument at a position or under a name. -/
def get? (a : Args) (i : Nat) (name : String) : Option Value :=
  Value.argument? a.positional a.named i name

/-- A flag, false if absent. -/
def flag (a : Args) (i : Nat) (name : String) : Result Bool :=
  match a.get? i name with
  | some v => v.truth
  | none => .ok false

/-- An integer with a default. -/
def int (a : Args) (i : Nat) (name : String) (d : Int) : Result Int :=
  match a.get? i name with
  | some v => v.toIndex
  | none => .ok d

/-- Names in a row for a message. -/
def nameList : List String → String
  | [] => ""
  | [a] => Text.quoted a
  | [a, b] => Text.quoted a ++ " and " ++ Text.quoted b
  | [a, b, c] => Text.quoted a ++ ", " ++ Text.quoted b ++ ", and " ++ Text.quoted c
  | a :: rest => Text.quoted a ++ ", " ++ nameList rest

/-- Refuse an argument whose name is no parameter, or a parameter that is filled already. -/
def checkNamed (fn : String) (params : List Param) (filled : List String) :
    List (String × Value) → Result Unit
  | [] => .ok ()
  | (name, _) :: rest =>
    if !params.any (·.name == name) then
      .error (.other .type (fn ++ "() got an unexpected keyword argument " ++ Text.quoted name))
    else if filled.contains name then
      .error (.other .type (fn ++ "() got multiple values for argument " ++ Text.quoted name))
    else checkNamed fn params filled rest

/-- How many positional arguments a function takes, in words. -/
def capacity (params : List Param) : String :=
  let most := params.length
  let least := (params.filter (·.default.isNone)).length
  if least < most then "from " ++ toString least ++ " to " ++ toString most ++ " positional arguments"
  else if most = 1 then "1 positional argument"
  else toString most ++ " positional arguments"

/-- The values of a function's parameters; `fn` is its name in messages. -/
def fill (fn : String) (params : List Param) (a : Args) : Result (List Value) := do
  let given := a.positional.length
  checkNamed fn params ((params.take given).map (·.name)) a.named
  if params.length < given then
    throw (.other .type (fn ++ "() takes " ++ capacity params ++ " but " ++ toString given ++
      (if given = 1 then " was given" else " were given")))
  let rest := params.drop given
  let missing := rest.filter fun p => p.default.isNone && (a.named.lookup p.name).isNone
  if !missing.isEmpty then
    throw (.other .type (fn ++ "() missing " ++ toString missing.length ++
      " required positional argument" ++ (if missing.length = 1 then ": " else "s: ") ++
      nameList (missing.map (·.name))))
  return a.positional ++ rest.map fun p =>
    (a.named.lookup p.name).getD (p.default.getD .null)

end Args
end SqlMapper.Template
