import SqlMapper.Template.Tree
/-!
# SqlMapper.Template.Program

A linked template: every variable is a place, a slot in a frame that is found by counting scopes
outwards. A scope says for each of its slots where the value comes from when the scope is entered
(`Origin`). The names that are looked up among the parameters are collected in one list
(`Program.externals`), and a run is given their values and nothing else of the parameters: what is
not in the list cannot influence the run.
-/

namespace SqlMapper.Template

/-- Where a variable's value is kept: the number of scopes to go outwards, and the slot. The name is
kept for messages. -/
structure Place where
  depth : Nat
  slot : Nat
  name : String
  deriving Repr, DecidableEq

/-- Where the value of a slot comes from when its scope is entered. -/
inductive Origin
  /-- From whoever enters the scope. -/
  | given
  /-- From outside the template: the external of this number. -/
  | outside (index : Nat)
  /-- From a place of the enclosing scopes. -/
  | copied (p : Place)
  /-- There is none yet. -/
  | unset
  /-- From a slot of the outermost scope, or else from outside. -/
  | exported (slot index : Nat)
  /-- The template's reference to itself. -/
  | itself
  deriving Repr, DecidableEq

/-- The slots of a scope. -/
abbrev Scope := List Origin

/-- A linked expression. -/
abbrev Code := Expr Place

/-- Linked statements. Loops and snippets are kept in tables, since values may refer to them. -/
inductive Node
  | text (s : String)
  | print (e : Code)
  | choice (test : Code) (body : List Node) (more : List (Code × List Node)) (otherwise : List Node)
  | loop (index : Nat)
  | assign (target : Target Place) (e : Code)
  /-- The text of a body becomes the value of a target, after an optional filter that reads the text
  from a slot of the body's scope. -/
  | capture (scope : Scope) (body : List Node) (filter : Option (Nat × Code))
      (target : Target Place)
  | withVars (scope : Scope) (bindings : List (Target Place × Code)) (body : List Node)
  | define (place : Place) (index : Nat)
  | callBlock (index : Nat) (call : Code)
  | clause (kind : ClauseKind) (index : Nat)
  /-- The filter reads the text of the body from a slot of the body's scope. -/
  | filterBlock (scope : Scope) (body : List Node) (slot : Nat) (filter : Code)
  | escaping (scope : Scope) (value : Code) (body : List Node)
  /-- A block, run in a scope of its own that sees no enclosing one. -/
  | block (name : String) (required : Bool) (scope : Scope) (body : List Node)
  /-- A request for another template. -/
  | foreign
  deriving Inhabited

/-- A loop. -/
structure Loop where
  scope : Scope
  target : Target Place
  source : Code
  /-- The condition on elements, with its own scope and target. -/
  test : Option (Scope × Target Place × Code)
  /-- The slot of the loop's own variable, if the body needs it. -/
  loopSlot : Option Nat
  recursive : Bool
  body : List Node
  otherwiseScope : Scope
  otherwise : List Node
  deriving Inhabited

/-- A piece of a template with parameters. -/
structure Snippet where
  /-- Its name; blocks that calls bring along have none. -/
  name : Option String
  /-- The names of the parameters; they have the first slots. -/
  params : List String
  /-- The defaults of the last parameters. -/
  defaults : List Code
  /-- The slot for the block that a call brings along. -/
  callerSlot : Option Nat
  /-- The slot for named arguments that are no parameters. -/
  namedSlot : Option Nat
  /-- The slot for positional arguments beyond the parameters. -/
  restSlot : Option Nat
  scope : Scope
  body : List Node
  deriving Inhabited

/-- A linked template. -/
structure Program where
  /-- The names that are looked up outside the template, each once. -/
  externals : List String
  scope : Scope
  body : List Node
  loops : List Loop
  snippets : List Snippet
  deriving Inhabited

end SqlMapper.Template
