import SqlMapper.Template.Lexer
import SqlMapper.Template.Tree
/-!
# SqlMapper.Template.Reader

The steps that the parser of templates is made of: looking at the current token, moving on, and
insisting on a token. Moving on to a fault is what makes the fault count. The state also knows the
tags that are open and the end tags they wait for, which is what the messages about misplaced and
missing tags are made from.
-/

namespace SqlMapper.Template

/-- Where the parser is. -/
structure ReaderState where
  /-- The tokens left, the current one first. -/
  tokens : List Token
  /-- The line of the last token passed. -/
  line : Nat
  /-- The names of the open tags, the innermost first. -/
  tags : List String
  /-- The end tags that are waited for, the innermost first. -/
  awaited : List (List String)

/-- A step of the parser. -/
abbrev Reader := StateT ReaderState (Except Fault)

namespace Reader

/-- Give up at a line. -/
def failAt {α : Type} (reason : String) (line : Nat) : Reader α := throw ⟨reason, line⟩

/-- The current token; behind the last one stands the end of the template. -/
def current : Reader Token := do
  let s ← get
  return s.tokens.headD ⟨.eof, s.line⟩

/-- What the current token is. -/
def kind : Reader TokenKind := return (← current).kind

/-- Give up at the current line. -/
def failHere {α : Type} (reason : String) : Reader α := do failAt reason (← current).line

/-- Refuse to stand on a fault. -/
def checkFault : Reader Unit := do
  match ← current with
  | ⟨.fault reason, line⟩ => failAt reason line
  | _ => pure ()

/-- Move on; the token passed comes back. -/
def advance : Reader Token := do
  let t ← current
  modify fun s => { s with tokens := s.tokens.tail, line := t.line }
  checkFault
  return t

/-- The token after the current one. -/
def look : Reader TokenKind := do
  let s ← get
  match s.tokens.tail.head? with
  | some ⟨.fault reason, line⟩ => failAt reason line
  | some t => return t.kind
  | none => return .eof

/-- Pass the current token if it is of a kind. -/
def skipIf (p : TokenKind → Bool) : Reader Bool := do
  if p (← kind) then
    let _ ← advance
    return true
  else return false

/-- Insist on a kind of token, which messages call by its title. -/
def expect (p : TokenKind → Bool) (title : String) : Reader Token := do
  let t ← current
  if p t.kind then advance
  else match t.kind with
    | .eof =>
      failAt ("unexpected end of template, expected " ++ Text.quoted title ++ ".") t.line
    | k =>
      failAt ("expected token " ++ Text.quoted title ++ ", got " ++ Text.quoted k.describe) t.line

/-- Insist on a symbol. -/
def expectSymbol (s : Symbol) : Reader Unit := do
  let _ ← expect (·.isSymbol s) s.text

/-- Insist on a given word. -/
def expectWord (word : String) : Reader Token := expect (·.isName word) word

/-- Insist on a name. -/
def expectName : Reader (String × Nat) := do
  let t ← expect (fun k => match k with | .name _ => true | _ => false) "name"
  match t.kind with
  | .name s => return (s, t.line)
  | _ => failAt "expected token 'name'" t.line

/-- Insist on the end of a block tag. -/
def expectBlockEnd : Reader Unit := do
  let _ ← expect (fun k => match k with | .blockEnd => true | _ => false)
    TokenKind.blockEnd.title

/-- The message about a tag that is unknown here, or about the end of the template. -/
def misplaced (tag : Option String) : Reader String := do
  let s ← get
  let first := match tag with
    | none => "Unexpected end of template."
    | some t => "Encountered unknown tag " ++ Text.quoted t ++ "."
  let waiting := match s.awaited with
    | [] => []
    | ends :: _ =>
      let wanted := String.intercalate " or " (ends.map Text.quoted)
      if tag.any fun t => s.awaited.any (·.contains t) then
        ["You probably made a nesting mistake. Jinja is expecting this tag, but currently " ++
          "looking for " ++ wanted ++ "."]
      else ["Jinja was looking for the following tags: " ++ wanted ++ "."]
  let innermost := match s.tags with
    | [] => []
    | t :: _ => ["The innermost block that needs to be closed is " ++ Text.quoted t ++ "."]
  return String.intercalate " " (first :: waiting ++ innermost)

/-- Run a step with a tag open. -/
def withinTag {α : Type} (tag : String) (step : Reader α) : Reader α := do
  modify fun s => { s with tags := tag :: s.tags }
  let a ← step
  modify fun s => { s with tags := s.tags.tail }
  return a

/-- Run a step while end tags are waited for. -/
def awaiting {α : Type} (ends : List String) (step : Reader α) : Reader α := do
  modify fun s => { s with awaited := ends :: s.awaited }
  let a ← step
  modify fun s => { s with awaited := s.awaited.tail }
  return a

/-- A bound for loops: the tokens left. Every turn of a loop passes a token. -/
def bound : Reader Nat := return (← get).tokens.length + 1

/-- The refusal of a template that is nested deeper than the bound; it does not arise, because the
bound is the number of tokens. -/
def tooDeep {α : Type} : Reader α := failHere "the template is nested too deeply"

end Reader
end SqlMapper.Template
