import SqlMapper.Xml.Scan
/-!
# SqlMapper.Xml.Doctype

What may stand before the root element: the declaration of the document, comments, processing
instructions, and the document type with its declarations. Of the declarations only what the content
depends on is kept: the entities, and the attributes whose values are lists of words.
-/

namespace SqlMapper.Xml

open Scan

/-- What an entity stands for. -/
inductive Entity
  | internal (text : List Char)
  /-- A text in another file, which is not read. -/
  | external
  /-- Data of another kind, to which text cannot refer. -/
  | unparsed
  deriving Repr, DecidableEq

/-- What the document type declares. -/
structure Doctype where
  entities : List (String × Entity) := []
  /-- Pairs of element and attribute whose values are trimmed, with single spaces. -/
  wordLists : List (String × String) := []
  /-- May there be declarations that have not been read? -/
  open_ : Bool := false
  deriving Inhabited

/-- The character that a numeric reference stands for, after its `&#`. -/
def numericReference : Scan Char := do
  let hex ← skipIf "x"
  let digits ← upTo ";"
  ensure (!digits.isEmpty)
  let base := if hex then 16 else 10
  let value? (c : Char) : Option Nat :=
    if c.isDigit then some (c.toNat - 48)
    else if hex && 'a' ≤ c && c ≤ 'f' then some (c.toNat - 87)
    else if hex && 'A' ≤ c && c ≤ 'F' then some (c.toNat - 55)
    else none
  match digits.foldlM (fun n c => (value? c).map fun d => min (n * base + d) 0x110000) 0 with
  | some n =>
    let c := Char.ofNat n
    ensure (c.toNat == n && isXmlChar c)
    return c
  | none => malformed

/-- The characters that the entities of XML itself stand for. -/
def predefined? : String → Option Char
  | "lt" => some '<'
  | "gt" => some '>'
  | "amp" => some '&'
  | "quot" => some '"'
  | "apos" => some '\''
  | _ => none

/-- A comment, after its opening. Two hyphens may stand at its end only. -/
def commentRest : Scan Unit := do
  let _ ← upTo "--"
  expect ">"

/-- A processing instruction, after its opening. -/
def instructionRest : Scan Unit := do
  let target ← name
  ensure (!target.toList.contains ':' && target.toLower != "xml")
  if ← skipIf "?>" then return ()
  needBlanks
  let _ ← upTo "?>"

/-- Comments, processing instructions and blanks. The fuel is the number of characters. -/
def asides : Nat → Scan Unit
  | 0 => return ()
  | n + 1 => do
    let _ ← blanks
    if ← skipIf "<!--" then
      commentRest
      asides n
    else if ← skipIf "<?" then
      instructionRest
      asides n

/-! ### Declarations -/

/-- Where an external text is to be found. -/
def externalId : Scan Unit := do
  if ← skipIf "SYSTEM" then
    needBlanks
    let _ ← quotedText
  else
    expect "PUBLIC"
    needBlanks
    let _ ← quotedText
    needBlanks
    let _ ← quotedText

/-- The text of an entity: numeric references are replaced, others are left for later. -/
def entityText : Nat → List Char → Option (List Char)
  | 0, _ => none
  | _, [] => some []
  | n + 1, '&' :: '#' :: cs => do
    let (c, rest) ← numericReference.run cs
    return c :: (← entityText n rest)
  | n + 1, '&' :: cs => do
    let (ref, rest) ← name.run cs
    match rest with
    | ';' :: rest => return '&' :: ref.toList ++ ';' :: (← entityText n rest)
    | _ => none
  | n + 1, c :: cs => if c == '%' then none else do return c :: (← entityText n cs)

/-- The declaration of an entity, after its opening. -/
def entityDeclaration (d : Doctype) : Scan Doctype := do
  needBlanks
  let parameter ← skipIf "%"
  if parameter then needBlanks
  let ref ← name
  ensure (!ref.toList.contains ':')
  needBlanks
  let entity ← match ← peek with
    | some '"' | some '\'' => do
      let raw ← quotedText
      match entityText (raw.length + 1) raw with
      | some text => pure (.internal text)
      | none => malformed
    | _ => do
      externalId
      if (← blanks) && (← skipIf "NDATA") then
        needBlanks
        let _ ← name
        pure .unparsed
      else pure .external
  let _ ← blanks
  expect ">"
  if parameter || d.entities.any (·.1 == ref) then return d
  return { d with entities := d.entities ++ [(ref, entity)] }

/-- A model of an element's content, with balanced parentheses. -/
def contentModel : Scan Unit := do
  let model ← takeWhile fun c => c != '>' && c != '<'
  let words := String.ofList (model.reverse.dropWhile isSpace).reverse
  if words == "EMPTY" || words == "ANY" then return ()
  ensure (words.startsWith "(")
  let depth := model.foldlM (fun d c =>
    if c == '(' then some (d + 1)
    else if c == ')' then (if d = 0 then none else some (d - 1))
    else if insideName c || isSpace c || c == '|' || c == ',' || c == '?' || c == '*' || c == '+' ||
      c == '#' then some d
    else none) 0
  ensure (depth == some 0)

/-- The type of an attribute; is it a list of words? -/
def attributeType : Scan Bool := do
  if ← skipIf "CDATA" then return false
  let plain := ["IDREFS", "IDREF", "ID", "ENTITIES", "ENTITY", "NMTOKENS", "NMTOKEN"]
  for word in plain do
    if ← skipIf word then return true
  if ← skipIf "NOTATION" then needBlanks
  expect "("
  let names ← upTo ")"
  ensure (names.all fun c => insideName c || isSpace c || c == '|')
  return true

/-- The attributes that a declaration lists. -/
def attributeDefinitions (element : String) : Nat → Doctype → Scan Doctype
  | 0, _ => malformed
  | n + 1, d => do
    let spaced ← blanks
    if ← skipIf ">" then return d
    ensure spaced
    let attribute_ ← name
    needBlanks
    let isWords ← attributeType
    needBlanks
    if !((← skipIf "#REQUIRED") || (← skipIf "#IMPLIED")) then
      if ← skipIf "#FIXED" then needBlanks
      let value ← quotedText
      ensure (!value.contains '<')
    let d := if isWords then { d with wordLists := d.wordLists ++ [(element, attribute_)] } else d
    attributeDefinitions element n d

/-- The declarations inside of the document type. -/
def declarations : Nat → Doctype → Scan Doctype
  | 0, _ => malformed
  | n + 1, d => do
    let _ ← blanks
    if ← skipIf "]" then return d
    if ← skipIf "<!--" then
      commentRest
      declarations n d
    else if ← skipIf "<?" then
      instructionRest
      declarations n d
    else if ← skipIf "<!ENTITY" then declarations n (← entityDeclaration d)
    else if ← skipIf "<!ELEMENT" then
      needBlanks
      let _ ← name
      needBlanks
      contentModel
      expect ">"
      declarations n d
    else if ← skipIf "<!ATTLIST" then
      needBlanks
      let element ← name
      declarations n (← attributeDefinitions element (← get).length d)
    else if ← skipIf "<!NOTATION" then
      needBlanks
      let _ ← name
      needBlanks
      if ← skipIf "PUBLIC" then
        needBlanks
        let _ ← quotedText
        if ← blanks then
          if !((← peek) == some '>') then
            let _ ← quotedText
      else externalId
      let _ ← blanks
      expect ">"
      declarations n d
    else
      expect "%"
      let _ ← name
      expect ";"
      declarations n { d with open_ := true }

/-- The document type, if one is declared. -/
def doctype : Scan Doctype := do
  if !(← skipIf "<!DOCTYPE") then return {}
  needBlanks
  let _ ← name
  let _ ← blanks
  let elsewhere ← match ← peek with
    | some 'S' | some 'P' => do
      externalId
      pure true
    | _ => pure false
  let _ ← blanks
  let d : Doctype := { open_ := elsewhere }
  let d ← if ← skipIf "[" then declarations (← get).length d else pure d
  let _ ← blanks
  expect ">"
  return d

/-! ### The declaration of the document -/

/-- What the first line says. -/
structure Prolog where
  encoding : Option (List Char) := none
  standalone : Bool := false

/-- An item of the declaration: its name, an equals sign and a text. -/
def item (key : String) : Scan (List Char) := do
  expect key
  let _ ← blanks
  expect "="
  let _ ← blanks
  quotedText

/-- Is a text the number of a version? -/
def isVersion : List Char → Bool
  | '1' :: '.' :: digits => digits.all Char.isDigit
  | _ => false

/-- Is a text the name of an encoding? -/
def isEncodingName : List Char → Bool
  | [] => false
  | c :: cs => c.isAlpha && cs.all fun c => c.isAlphanum || c == '.' || c == '_' || c == '-'

/-- The declaration of the document, if there is one. -/
def prolog : Scan Prolog := do
  let cs ← get
  match Text.dropStart? "<?xml".toList cs with
  | some (c :: _) =>
    if !isSpace c then return {}
    expect "<?xml"
    needBlanks
    ensure (isVersion (← item "version"))
    let spaced ← blanks
    let encoding ← match ← peek with
      | some 'e' => do
        ensure spaced
        let e ← item "encoding"
        ensure (isEncodingName e)
        pure (some e)
      | _ => pure none
    let spaced := (← blanks) || (spaced && encoding.isNone)
    let standalone ← match ← peek with
      | some 's' => do
        ensure spaced
        let s ← item "standalone"
        ensure (s == "yes".toList || s == "no".toList)
        pure (s == "yes".toList)
      | _ => pure false
    let _ ← blanks
    expect "?>"
    return { encoding, standalone }
  | _ => return {}

end SqlMapper.Xml
