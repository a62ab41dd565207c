import SqlMapper.Xml.Doctype
import SqlMapper.Xml.Encoding
import SqlMapper.Xml.Tree
/-!
# SqlMapper.Xml.Reader

Reading documents (`Element.read?`). Elements are read with a stack of those that are open, so the
recursion is on the characters left. References to declared entities are not replaced in content; the
entity's text only has to be well-formed. In the values of attributes they are replaced.
-/

namespace SqlMapper.Xml

open Scan

/-- The namespace of the prefix `xml`. -/
def xmlSpace : String := "http://www.w3.org/XML/1998/namespace"

/-- The namespace of the prefix `xmlns`, which cannot be declared. -/
def xmlnsSpace : String := "http://www.w3.org/2000/xmlns/"

/-- The namespaces in scope by prefix; the empty prefix stands for the default. -/
abbrev Bindings := List (String × String)

/-- How deep elements may be nested. -/
def depthLimit : Nat := 257

/-- What is known when content is read. -/
structure Surroundings where
  doctype : Doctype
  standalone : Bool
  /-- The entities whose text is known to be well-formed. -/
  sound : List String
  /-- Is it the text of an entity, not of the document? -/
  fragment : Bool

namespace Surroundings

/-- Is a reference to an entity that is not declared passed over? -/
def passesUnknown (s : Surroundings) : Bool := s.doctype.open_ && !s.standalone

end Surroundings

/-! ### Names -/

/-- A name split at its colon. -/
def splitName (qname : String) : Option (String × String) :=
  match Text.splitAt [':'] none qname.toList with
  | [label] => some ("", String.ofList label)
  | [before, label] =>
    match before, label with
    | _ :: _, c :: _ => if startsName c then some (String.ofList before, String.ofList label) else none
    | _, _ => none
  | _ => none

/-- The namespace of a prefix. -/
def Bindings.space? (bs : Bindings) (leading : String) : Option String :=
  if leading == "xml" then some xmlSpace else bs.lookup leading

/-- Is a character allowed in the name of a namespace? -/
def isUriChar (c : Char) : Bool :=
  c.isAlphanum || "-._~%!$&'()*+,;=:@/?#[]".toList.contains c

/-- May a text be the name of a namespace? -/
def isUri (s : String) : Bool :=
  let cs := s.toList
  let scheme := cs.takeWhile fun c => !"/?#:".toList.contains c
  cs.all isUriChar &&
    match cs.drop scheme.length with
    | ':' :: _ => scheme.head?.any Char.isAlpha &&
      scheme.all fun c => c.isAlphanum || c == '+' || c == '-' || c == '.'
    | _ => true

/-- The namespaces in scope inside an element with these attributes. -/
def bind (bs : Bindings) : List (String × String) → Option Bindings
  | [] => some bs
  | (qname, value) :: rest => do
    let bs ←
      if qname == "xmlns" then
        if value == xmlSpace || value == xmlnsSpace || !isUri value then none
        else pure (("", value) :: bs)
      else match ← splitName qname with
        | ("xmlns", "xml") => if value == xmlSpace then pure bs else none
        | ("xmlns", leading) =>
          if leading == "xmlns" || value.isEmpty || value == xmlSpace || value == xmlnsSpace ||
            !isUri value then none
          else pure ((leading, value) :: bs)
        | _ => pure bs
    bind bs rest

/-- Does an attribute declare a namespace? -/
def isDeclaration (qname : String) : Bool := qname == "xmlns" || qname.startsWith "xmlns:"

/-- The expanded names of attributes; two of one name are an error. -/
def expandAttributes (bs : Bindings) : List (String × String) → Option (List (Name × String))
  | [] => some []
  | (qname, value) :: rest => do
    let rest ← expandAttributes bs rest
    if isDeclaration qname then return rest
    let (leading, label) ← splitName qname
    let space ← if leading.isEmpty then some "" else bs.space? leading
    let name : Name := ⟨space, label⟩
    if rest.any (·.1 == name) then none else return (name, value) :: rest

/-! ### Attributes -/

/-- Replace the references in the value of an attribute, and blanks by spaces. The first number
bounds the nesting of entities, the second is the number of characters. -/
def attributeValue (s : Surroundings) : Nat → Nat → List Char → Option (List Char)
  | _, 0, _ => none
  | _, _, [] => some []
  | d, n + 1, '&' :: '#' :: cs => do
    let (c, rest) ← numericReference.run cs
    return c :: (← attributeValue s d n rest)
  | d, n + 1, '&' :: cs => do
    let (ref, rest) ← name.run cs
    match rest with
    | ';' :: rest =>
      let value ←
        match predefined? ref with
        | some c => some [c]
        | none =>
          match s.doctype.entities.lookup ref, d with
          | some (.internal text), d + 1 => attributeValue s d (text.length + 1) text
          | some _, _ => none
          | none, _ => if s.passesUnknown then some [] else none
      return value ++ (← attributeValue s d n rest)
    | _ => none
  | d, n + 1, c :: cs =>
    if c == '<' || !isXmlChar c then none
    else do return (if isSpace c then ' ' else c) :: (← attributeValue s d n cs)

/-- A value as a list of words: no spaces at the ends, and single ones inside. -/
def asWords (cs : List Char) : List Char :=
  Text.joinWith [' '] ((Text.splitAt [' '] none cs).filter (!·.isEmpty))

/-- The attributes of a tag, up to its end, with their names as written; does the tag close the
element too? -/
def attributes (s : Surroundings) (element : String) :
    Nat → List (String × String) → Scan (List (String × String) × Bool)
  | 0, _ => malformed
  | n + 1, done => do
    let spaced ← blanks
    if ← skipIf "/>" then return (done.reverse, true)
    if ← skipIf ">" then return (done.reverse, false)
    ensure spaced
    let qname ← name
    ensure !(done.any (·.1 == qname))
    let _ ← blanks
    expect "="
    let _ ← blanks
    let raw ← quotedText
    match attributeValue s (s.doctype.entities.length + 1) (raw.length + 1) raw with
    | none => malformed
    | some value =>
      let value := if s.doctype.wordLists.contains (element, qname) then asWords value else value
      attributes s element n ((qname, String.ofList value) :: done)

/-! ### Content -/

/-- An element that is open. -/
structure Pending where
  /-- Its name as written. -/
  qname : String
  name : Name
  attributes : List (Name × String)
  /-- What has been read of its content, the last first. -/
  content : List Node
  bindings : Bindings

namespace Pending

/-- Add to the content. -/
def push (e : Pending) (n : Node) : Pending := { e with content := n :: e.content }

/-- The finished element. -/
def node (e : Pending) : Node := .element e.name e.attributes e.content.reverse

end Pending

/-- The start of an element, after the opening mark: the open element, and whether it is closed. -/
def startTag (s : Surroundings) (bs : Bindings) : Scan (Pending × Bool) := do
  let qname ← name
  let (raw, closed) ← attributes s qname (← get).length []
  let opened : Option Pending := do
    let bindings ← bind bs raw
    let (leading, label) ← splitName qname
    let space ←
      if leading.isEmpty then some ((bindings.lookup "").getD "")
      else if s.fragment then some ((bindings.space? leading).getD leading)
      else bindings.space? leading
    let attributes ← expandAttributes bindings raw
    return { qname, name := ⟨space, label⟩, attributes, content := [], bindings }
  match opened with
  | some e => return (e, closed)
  | none => malformed

/-- A reference in content, after its ampersand. -/
def reference (s : Surroundings) : Scan Node := do
  if ← skipIf "#" then return .text (String.singleton (← numericReference))
  let ref ← name
  expect ";"
  match predefined? ref with
  | some c => return .text (String.singleton c)
  | none =>
    match s.doctype.entities.lookup ref with
    | some (.internal _) => ensure (s.sound.contains ref)
    | some .external => pure ()
    | some .unparsed => malformed
    | none => ensure s.passesUnknown
    return .aside

/-- The content of the innermost open element and all that follows, up to the end of the outermost
one. The fuel is the number of characters. -/
def content (s : Surroundings) : Nat → Pending → List Pending → Scan Node
  | 0, _, _ => malformed
  | n + 1, top, below => do
    match ← peek with
    | none =>
      ensure (s.fragment && below.isEmpty)
      return top.node
    | some '<' =>
      if ← skipIf "</" then
        let qname ← name
        ensure (qname == top.qname)
        let _ ← blanks
        expect ">"
        match below with
        | [] => return top.node
        | outer :: rest => content s n (outer.push top.node) rest
      else if ← skipIf "<!--" then
        commentRest
        content s n (top.push .aside) below
      else if ← skipIf "<![CDATA[" then
        let text ← upTo "]]>"
        content s n (top.push (.text (String.ofList text))) below
      else if ← skipIf "<?" then
        instructionRest
        content s n (top.push .aside) below
      else
        expect "<"
        ensure (below.length + 1 < depthLimit)
        let (e, closed) ← startTag s top.bindings
        if closed then content s n (top.push e.node) below
        else content s n e (top :: below)
    | some '&' =>
      expect "&"
      let node ← reference s
      content s n (top.push node) below
    | some _ =>
      let text ← takeWhile fun c => c != '<' && c != '&'
      ensure (text.all isXmlChar && !Text.occursIn "]]>".toList text)
      content s n (top.push (.text (String.ofList text))) below

/-- Is the text of an entity well-formed content? -/
def isSound (s : Surroundings) (text : List Char) : Bool :=
  let outermost : Pending :=
    { qname := "", name := default, attributes := [], content := [], bindings := [] }
  (runAll (content { s with fragment := true } (text.length + 1) outermost []) text).isSome

/-- The entities whose text is well-formed; in every round those that refer to the ones before. -/
def soundEntities (s : Surroundings) : Nat → List String
  | 0 => []
  | n + 1 =>
    let sound := soundEntities s n
    s.doctype.entities.filterMap fun (ref, e) =>
      match e with
      | .internal text =>
        if sound.contains ref || isSound { s with sound } text then some ref else none
      | _ => none

/-! ### Documents -/

/-- The root element of a document. -/
def root : Scan Element := do
  let p ← prolog
  asides (← get).length
  let d ← doctype
  asides (← get).length
  let s : Surroundings := { doctype := d, standalone := p.standalone, sound := [], fragment := false }
  let s := { s with sound := soundEntities s d.entities.length }
  expect "<"
  let (e, closed) ← startTag s []
  let node ← if closed then pure e.node else content s ((← get).length + 1) e []
  asides (← get).length
  match node with
  | .element name attributes content => return { name, attributes, content }
  | _ => malformed

/-- The characters of a document. -/
def characters (bytes : List UInt8) : Option (List Char) :=
  match bytes with
  | 0xef :: 0xbb :: 0xbf :: rest => Encoding.utf8.decode rest
  | 0xfe :: 0xff :: rest => (Encoding.utf16 true).decode rest
  | 0xff :: 0xfe :: rest => (Encoding.utf16 false).decode rest
  | 0x00 :: 0x3c :: 0x00 :: 0x3f :: _ => (Encoding.utf16 true).decode bytes
  | 0x3c :: 0x00 :: 0x3f :: 0x00 :: _ => (Encoding.utf16 false).decode bytes
  | _ =>
    let front := (bytes.take 200).map fun b => Char.ofNat b.toNat
    match prolog.run front with
    | some ({ encoding := some name, .. }, _) => (Encoding.ofName? name).bind (·.decode bytes)
    | _ => Encoding.utf8.decode bytes

/-- Read a document; nothing for a malformed one. -/
def Element.read? (bytes : List UInt8) : Option Element :=
  (characters bytes).bind fun cs => runAll root (Text.unifyLineEnds cs)

end SqlMapper.Xml
