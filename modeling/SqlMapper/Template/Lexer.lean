import SqlMapper.Template.Token
import SqlMapper.Text.Search
/-!
# SqlMapper.Template.Lexer

Reading the tokens of a template. Text runs up to the next opening mark of a print tag, a block tag
or a comment. A minus sign inside a mark removes the blanks next to it outside the tag. Inside a tag
the closing mark counts only where all brackets are closed. Between `raw` and `endraw` everything is
text, and comments leave no token.

Line ends are unified first, and one line end at the end of the template is dropped.
-/

namespace SqlMapper.Template

open SqlMapper.Text

/-- The character after an opening brace that makes it an opening mark. -/
def isMark (c : Char) : Bool := c.toNat == 0x7b || c == '%' || c == '#'

/-- The opening brace. -/
def openBrace : Char := Char.ofNat 0x7b

/-- The closing brace. -/
def closeBrace : Char := Char.ofNat 0x7d

/-- Number of line feeds. -/
def countLines (cs : List Char) : Nat := cs.count '\n'

/-- Text up to the next opening mark; the mark's character and what follows, if there is one. -/
def takeData : List Char → List Char × Option (Char × List Char)
  | [] => ([], none)
  | [c] => ([c], none)
  | c :: d :: cs =>
    if c = openBrace ∧ isMark d then ([], some (d, cs))
    else
      let (data, rest) := takeData (d :: cs)
      (c :: data, rest)

/-- A sign next to a mark. -/
def takeSign : List Char → Option Char × List Char
  | '-' :: cs => (some '-', cs)
  | '+' :: cs => (some '+', cs)
  | cs => (none, cs)

/-- A closing mark of a tag that ends in `mark` and a brace: how many characters it takes, counting
the blanks that a minus sign removes, and the rest. -/
def closing? (mark : Char) (plusAllowed : Bool) (cs : List Char) : Option (List Char) :=
  match cs with
  | '-' :: m :: b :: rest =>
    if m = mark ∧ b = closeBrace then some (dropBlanks rest) else none
  | '+' :: m :: b :: rest =>
    if plusAllowed ∧ m = mark ∧ b = closeBrace then some rest else none
  | m :: b :: rest => if m = mark ∧ b = closeBrace then some rest else none
  | _ => none

/-- The inside of a comment and the text after it. -/
def takeComment? : List Char → Option (List Char × List Char)
  | [] => none
  | c :: cs =>
    match closing? '#' true (c :: cs) with
    | some rest => some ([], rest)
    | none => (takeComment? cs).map fun (s, r) => (c :: s, r)

/-- The rest of a tag that holds one word only, after its opening mark and sign. -/
def wordTag? (word : String) (plusAllowed : Bool) (cs : List Char) : Option (List Char) := do
  let rest ← dropStart? word.toList (dropBlanks cs)
  closing? '%' plusAllowed (dropBlanks rest)

/-- The inside of a raw section, whether blanks before its end are removed, and the text after. -/
def takeRaw? : List Char → Option (List Char × Bool × List Char)
  | [] => none
  | c :: cs =>
    let ending := match c :: cs with
      | b :: '%' :: rest =>
        if b = openBrace then
          let (sign, rest) := takeSign rest
          (wordTag? "endraw" true rest).map fun r => (sign == some '-', r)
        else none
      | _ => none
    match ending with
    | some (strip, rest) => some ([], strip, rest)
    | none => (takeRaw? cs).map fun (s, strip, r) => (c :: s, strip, r)

/-- A token of plain text, unless it is empty. -/
def dataToken (cs : List Char) (line : Nat) : List Token :=
  if cs.isEmpty then [] else [⟨.data (String.ofList cs), line⟩]

/-- Where the reader is inside a template. -/
inductive Mode
  | root
  /-- Inside a print tag or a block tag, with the brackets still to be closed and the character
  before. -/
  | tag (print : Bool) (brackets : List Symbol) (before : Char)

/-- The symbol at the front of a text. -/
def symbol? (cs : List Char) : Option (Symbol × List Char) :=
  Symbol.all.findSome? fun s => (dropStart? s.text.toList cs).map (s, ·)

/-- What follows in a tag, closing marks and blanks apart: a token and the rest. -/
def tagToken? (before : Char) (cs : List Char) : Option (TokenKind × List Char) :=
  let float? := if before = '.' then none else floatLiteral? cs
  match float? with
  | some (ds, rest) =>
    some (.float ((Number.readFloat? (ds.filter (· != '_'))).getD 0.0), rest)
  | none =>
    match integerLiteral? cs with
    | some (n, rest) => some (.integer n, rest)
    | none =>
      match cs with
      | [] => none
      | c :: rest =>
        if isNameRun c then
          let run := cs.takeWhile isNameRun
          some (if Text.isName run then .name (String.ofList run)
            else .fault "Invalid character in identifier", cs.dropWhile isNameRun)
        else
          let string? := if c = '\'' ∨ c = '"' then takeString? c rest else none
          match string? with
          | some (body, rest) =>
            some (match unescape body with
              | .ok s => .string s
              | .error reason => .fault reason, rest)
          | none => (symbol? cs).map fun (s, rest) => (.symbol s, rest)

/-- What a symbol does to the open brackets. -/
def trackBracket (s : Symbol) (brackets : List Symbol) : Except String (List Symbol) :=
  match s.closing? with
  | some closer => .ok (closer :: brackets)
  | none =>
    if s.isClosing then
      match brackets with
      | [] => .error ("unexpected '" ++ s.text ++ "'")
      | expected :: rest =>
        if expected = s then .ok rest
        else .error ("unexpected '" ++ s.text ++ "', expected '" ++ expected.text ++ "'")
    else .ok brackets

/-- The tokens from a place on. `total` is the length of the whole text, from which places are
counted. Every step takes a character at least, so the fuel need only exceed the rest's length. -/
def tokensFrom (total : Nat) : Nat → Mode → Nat → List Char → List Token
  | 0, _, _, _ => []
  | fuel + 1, .root, line, cs =>
    let (data, mark) := takeData cs
    match mark with
    | none => dataToken data line
    | some (c, rest) =>
      let (sign, inside) := takeSign rest
      let kept := if sign = some '-' then dropBlanksRight data else data
      let line' := line + countLines data
      dataToken kept line ++
        if c = '#' then
          match takeComment? inside with
          | none => if inside.isEmpty then [] else [⟨.fault "Missing end of comment tag", line'⟩]
          | some (_, after) =>
            let lines := countLines inside - countLines after
            tokensFrom total fuel .root (line' + lines) after
        else
          match if c = '%' then wordTag? "raw" false inside else none with
          | some body =>
            let line' := line' + (countLines inside - countLines body)
            match takeRaw? body with
            | none => if body.isEmpty then [] else [⟨.fault "Missing end of raw directive", line'⟩]
            | some (text, strip, after) =>
              dataToken (if strip then dropBlanksRight text else text) line' ++
                tokensFrom total fuel .root
                  (line' + (countLines body - countLines after)) after
          | none =>
            let print := c != '%'
            ⟨if print then .printBegin else .blockBegin, line'⟩ ::
              tokensFrom total fuel (.tag print [] ' ') line' inside
  | fuel + 1, .tag print brackets before, line, cs =>
    match cs with
    | [] => []
    | c :: rest =>
      let ending :=
        if brackets.isEmpty then closing? (if print then closeBrace else '%') (!print) cs else none
      match ending with
      | some after =>
        ⟨if print then .printEnd else .blockEnd, line⟩ ::
          tokensFrom total fuel .root (line + (countLines cs - countLines after)) after
      | none =>
        if isBlank c then
          let after := dropBlanks rest
          tokensFrom total fuel (.tag print brackets ' ')
            (line + (countLines cs - countLines after)) after
        else
          match tagToken? before cs with
          | none =>
            [⟨.fault ("unexpected char " ++ quoted (String.singleton c) ++ " at " ++
              toString (total - cs.length)), line⟩]
          | some (.fault reason, _) => [⟨.fault reason, line⟩]
          | some (kind, after) =>
            let taken := cs.take (cs.length - after.length)
            let next := line + countLines taken
            match kind with
            | .symbol s =>
              match trackBracket s brackets with
              | .error reason => [⟨.fault reason, line⟩]
              | .ok brackets =>
                ⟨kind, line⟩ ::
                  tokensFrom total fuel (.tag print brackets (taken.getLastD ' ')) next after
            | _ =>
              ⟨kind, line⟩ ::
                tokensFrom total fuel (.tag print brackets (taken.getLastD ' ')) next after

/-- A text without one line feed at its end. -/
def dropLastLineEnd (cs : List Char) : List Char :=
  match cs.reverse with
  | '\n' :: r => r.reverse
  | _ => cs

/-- The text that the tokens are read from. -/
def prepare (cs : List Char) : List Char := dropLastLineEnd (unifyLineEnds cs)

/-- The tokens of a template, up to its end or its first fault. -/
def tokens (source : String) : List Token :=
  let cs := prepare source.toList
  tokensFrom cs.length (cs.length + 1) .root 1 cs

end SqlMapper.Template
