import SqlMapper.Text.Search
/-!
# SqlMapper.Xml.Tree

Elements of an XML document. Of what has no text of its own (comments, processing instructions,
references to entities) only the place is kept.
-/

namespace SqlMapper.Xml

/-- An expanded name: a namespace, empty if there is none, and a local name. -/
structure Name where
  space : String
  label : String
  deriving Repr, DecidableEq, Inhabited

/-- A name as one text: the namespace, if there is one, stands in braces before the local name. -/
def Name.text (n : Name) : String :=
  if n.space.isEmpty then n.label else "\x7b" ++ n.space ++ "\x7d" ++ n.label

/-- What an element contains. -/
inductive Node
  | text (s : String)
  /-- A comment, a processing instruction or a reference to an entity. -/
  | aside
  | element (name : Name) (attributes : List (Name × String)) (content : List Node)
  deriving Inhabited

/-- An element. -/
structure Element where
  name : Name
  attributes : List (Name × String)
  content : List Node

namespace Node

/-- The characters that stand directly in a content. -/
def directText : List Node → List Char
  | [] => []
  | .text s :: rest => s.toList ++ directText rest
  | _ :: rest => directText rest

end Node
end SqlMapper.Xml
