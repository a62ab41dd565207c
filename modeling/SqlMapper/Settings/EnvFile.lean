import SqlMapper.Text.Blank
import SqlMapper.Text.Search
/-!
# SqlMapper.Settings.EnvFile

Files with one variable to a line: `NAME=value`. A value may stand between quotes, which then keep
blanks and line ends; without quotes it ends at a comment or at the end of the line. In values,
`$` and a name in braces stand for the value of another variable. A line that cannot be read is passed
over.
-/

namespace SqlMapper.Settings.EnvFile

open Text (isBlank)

/-- Is a character the end of a line? -/
def isLineEnd (c : Char) : Bool := c == '\n' || c == '\r'

/-- Is a character a blank inside a line? -/
def isInnerBlank (c : Char) : Bool := isBlank c && !isLineEnd c

/-- A step of the reader. -/
abbrev Scan := StateT (List Char) Option

/-- Take characters of a class. -/
def takeWhile (p : Char → Bool) : Scan (List Char) := fun cs =>
  some (cs.takeWhile p, cs.dropWhile p)

/-- Give up. -/
def malformed {α : Type} : Scan α := fun _ => none

/-- A text up to its closing quote, the first that no backslash stands before. -/
def quotedFrom (quote : Char) : List Char → List Char → Option (List Char × List Char)
  | _, [] => none
  | done, c :: cs =>
    if c == quote && done.head? != some '\\' then some (done.reverse, cs)
    else quotedFrom quote (c :: done) cs

/-- A text between quotes, after the opening one. If a backslash stands before every further quote,
the last of them closes all the same. -/
def quoted (quote : Char) (cs : List Char) : Option (List Char × List Char) :=
  match quotedFrom quote [] cs with
  | some r => some r
  | none =>
    match cs.reverse.dropWhile (· != quote) with
    | _ :: before => some (before.reverse, cs.drop (before.length + 1))
    | [] => none

/-- The character that an escape between double quotes stands for. -/
def doubleEscape? : Char → Option Char
  | '\\' => some '\\'
  | '\'' => some '\''
  | '"' => some '"'
  | 'a' => some '\x07'
  | 'b' => some '\x08'
  | 'f' => some '\x0c'
  | 'n' => some '\n'
  | 'r' => some '\r'
  | 't' => some '\t'
  | 'v' => some '\x0b'
  | _ => none

/-- The character that an escape between single quotes stands for. -/
def singleEscape? : Char → Option Char
  | '\\' => some '\\'
  | '\'' => some '\''
  | _ => none

/-- Replace escapes. -/
def decode (escape? : Char → Option Char) : List Char → List Char
  | '\\' :: c :: cs =>
    match escape? c with
    | some d => d :: decode escape? cs
    | none => '\\' :: decode escape? (c :: cs)
  | c :: cs => c :: decode escape? cs
  | [] => []
termination_by cs => cs.length

/-- A value without quotes: a comment after a blank is cut off. -/
def withoutComment (line : List Char) : List Char :=
  let rec go (before : List Char) : List Char → List Char
    | [] => before.reverse
    | c :: cs => if c == '#' && before.head?.any isBlank then before.reverse else go (c :: before) cs
  Text.dropBlanksRight (go [] line)

/-- A value after its equals sign. -/
def value : Scan (List Char) := do
  match ← get with
  | '\'' :: cs =>
    match quoted '\'' cs with
    | some (raw, rest) =>
      set rest
      return decode singleEscape? raw
    | none => malformed
  | '"' :: cs =>
    match quoted '"' cs with
    | some (raw, rest) =>
      set rest
      return decode doubleEscape? raw
    | none => malformed
  | _ => return withoutComment (← takeWhile (!isLineEnd ·))

/-- The name of a variable. A line that is a comment has none. -/
def key : Scan (Option (List Char)) := do
  match ← get with
  | '#' :: _ => return none
  | '\'' :: cs =>
    let name := cs.takeWhile (· != '\'')
    match cs.dropWhile (· != '\'') with
    | _ :: rest =>
      if name.isEmpty then malformed
      else
        set rest
        return some name
    | [] => malformed
  | _ =>
    let name ← takeWhile fun c => c != '=' && c != '#' && !isBlank c
    if name.isEmpty then malformed else return some name

/-- The end of a line. -/
def lineEnd : Scan Unit := do
  let _ ← takeWhile isInnerBlank
  match ← get with
  | [] => return ()
  | '\r' :: '\n' :: cs | '\r' :: cs | '\n' :: cs => set cs
  | _ => malformed

/-- Pass the word that may stand before a name. -/
def exportWord : Scan Unit := do
  match Text.dropStart? "export".toList (← get) with
  | some (c :: cs) => if isInnerBlank c then set (cs.dropWhile isInnerBlank)
  | _ => return ()

/-- One variable, with its value if it has one. -/
def binding : Scan (Option (List Char × Option (List Char))) := do
  exportWord
  let name ← key
  let _ ← takeWhile isInnerBlank
  let v ← match ← get with
    | '=' :: cs => do
      set (cs.dropWhile isInnerBlank)
      some <$> value
    | _ => pure none
  let _ ← takeWhile isInnerBlank
  if (← get).head? == some '#' then
    let _ ← takeWhile (!isLineEnd ·)
  lineEnd
  return name.map fun n => (n, v)

/-- The variables of a text. The fuel is the number of characters. -/
def bindings : Nat → List Char → List (List Char × Option (List Char))
  | 0, _ => []
  | n + 1, cs =>
    match cs.dropWhile isBlank with
    | [] => []
    | cs =>
      match binding.run cs with
      | some (some b, rest) => b :: bindings n rest
      | some (none, rest) => bindings n rest
      | none =>
        match cs.dropWhile (!isLineEnd ·) with
        | [] => []
        | _ :: rest => bindings n rest

/-- Replace references to variables. -/
def expand (known : List (String × String)) : Nat → List Char → List Char
  | 0, cs => cs
  | _, [] => []
  | n + 1, c :: cs =>
    match c, cs with
    | '$', '\x7b' :: body =>
      let name := body.takeWhile fun c => c != '\x7d' && c != ':'
      let rest := body.drop name.length
      let found := known.lookup (String.ofList name)
      match rest with
      | '\x7d' :: rest => (found.getD "").toList ++ expand known n rest
      | ':' :: '-' :: more =>
        let standIn := more.takeWhile (· != '\x7d')
        match more.drop standIn.length with
        | _ :: rest => (found.getD (String.ofList standIn)).toList ++ expand known n rest
        | [] => c :: expand known n cs
      | _ => c :: expand known n cs
    | _, _ => c :: expand known n cs

/-- The variables of a file that have values, the later of one name last. References see the
variables before them and those of the environment. -/
def read (environment : List (String × String)) (file : String) : List (String × String) :=
  let cs := Text.unifyLineEnds file.toList
  (bindings (cs.length + 1) cs).foldl (fun done (name, v) =>
    match v with
    | none => done
    | some v =>
      let known := done.reverse ++ environment
      done ++ [(String.ofList name, String.ofList (expand known (v.length + 1) v))]) []

end SqlMapper.Settings.EnvFile
