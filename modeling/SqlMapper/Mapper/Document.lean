import SqlMapper.Xml.Reader
import SqlMapper.Value.Comparison
/-!
# SqlMapper.Mapper.Document

Mapping documents as plain values. An element without attributes and children is its text. Any other
is a mapping of its attributes, its children by local name and its text: a name that occurs once
stands for the child, one that occurs repeatedly for the list of the children. A child hides an
attribute of its name, and the text hides both.

No element is a list, so a list always means repeated children.
-/

namespace SqlMapper.Mapper

open Xml (Node Element)

/-- A mapping document: its entries by name, in order. -/
abbrev Document := List (String × Value)

/-- The name under which an element's text is stored. -/
def textKey : String := "_"

/-- The value under a name. -/
def Document.get? (d : Document) (key : String) : Option Value := d.lookup key

/-- Put a value under a name: in place if the name is there, else at the end. -/
def Document.put (key : String) (v : Value) : Document → Document
  | [] => [(key, v)]
  | (k, w) :: es => if k == key then (k, v) :: es else (k, w) :: put key v es

/-- Add a child: the first of its name alone, further ones in a list. -/
def Document.addChild (key : String) (v : Value) : Document → Document
  | [] => [(key, v)]
  | (k, w) :: es =>
    if k == key then
      match w with
      | .list xs => (k, .list (xs ++ [v])) :: es
      | w => (k, .list [w, v]) :: es
    else (k, w) :: addChild key v es

/-- A document as a value. -/
def Document.value (d : Document) : Value := .dict (d.map fun (k, v) => (.str k, v))

/-- The value of an element whose children have been grouped. -/
def foldElement (attributes : List (Xml.Name × String)) (children : Document) (text : String) :
    Value :=
  if attributes.isEmpty && children.isEmpty then .str text
  else
    let own : Document :=
      attributes.foldl (fun d (name, value) => d.put name.text (.str value)) []
    let d := children.foldl (fun d (key, v) => d.put key v) own
    (if text.isEmpty then d else d.put textKey (.str text)).value

/-- The text of an element: what stands directly in it, without blanks at the ends. -/
def elementText (content : List Node) : String :=
  String.ofList (Text.trim (Node.directText content))

/-- The children of a content, grouped by local name. -/
def children (done : Document) : List Node → Document
  | [] => done
  | .element name attributes content :: rest =>
    children (done.addChild name.label
      (foldElement attributes (children [] content) (elementText content))) rest
  | _ :: rest => children done rest

/-- The value of an element. -/
def elementValue (e : Element) : Value :=
  foldElement e.attributes (children [] e.content) (elementText e.content)

/-- The entries of a document; one whose root is a mere text has none. -/
def Document.ofElement (e : Element) : Document :=
  match elementValue e with
  | .dict es => es.map fun (k, v) => ((k.text?).getD "", v)
  | _ => []

/-- Read a mapping document; nothing for a malformed one. -/
def Document.read? (bytes : List UInt8) : Option Document :=
  (Element.read? bytes).map Document.ofElement

end SqlMapper.Mapper
