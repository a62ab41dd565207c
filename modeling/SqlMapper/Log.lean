import SqlMapper.Text.Quoted
/-!
# SqlMapper.Log

What is logged, as events. How important an event is, where it comes from and how it is worded are
functions of the event.
-/

namespace SqlMapper

/-- How important an event is. -/
inductive Level
  | debug
  | info
  | warning
  | error
  deriving Repr, DecidableEq

/-- Events. -/
inductive Event
  /-- An entry of a mapping document is no kind of statement. -/
  | unknownType (key : String)
  /-- A mapping document has been loaded. -/
  | loaded (path : String) (names : List String)
  | loadFailed (path : String)
  /-- A statement is sent; it is mentioned only to those who ask unless `loud`. -/
  | executed (loud : Bool) (sql : String)
  /-- A page has been read. -/
  | paged (index size count : Int)
  /-- A file with entity classes cannot be loaded. -/
  | moduleFailed (path : String)
  /-- Entity classes have been looked for. -/
  | discovered (directory : String) (names : List String)
  deriving Repr, DecidableEq

namespace Event

/-- Names in a row, or a substitute if there are none. -/
def listed (substitute : String) (names : List String) : String :=
  let s := String.intercalate ", " names
  if s.isEmpty then substitute else s

/-- How important an event is. -/
def level : Event → Level
  | unknownType _ => .warning
  | loaded .. => .info
  | loadFailed _ => .error
  | executed loud _ => if loud then .info else .debug
  | paged .. => .debug
  | moduleFailed _ => .error
  | discovered .. => .info

/-- Where an event comes from. -/
def origin : Event → String
  | unknownType _ | loaded .. => "mapper.loader"
  | loadFailed _ => "mapper.registry"
  | executed .. => "engines.sql.executor"
  | paged .. => "engines.sql.pagination"
  | moduleFailed _ | discovered .. => "core.discovery"

/-- The wording of an event. -/
def message : Event → String
  | unknownType key =>
    "Mapping document: unsupported statement type " ++ Text.quoted key ++ " skipped"
  | loaded path names => "Loaded mapping template " ++ path ++ ": " ++ listed "(empty)" names
  | loadFailed path => "Failed to load mapping template " ++ path
  | executed _ sql => "exec " ++ sql
  | paged index size count =>
    "page index=" ++ toString index ++ " size=" ++ toString size ++ " count=" ++ toString count
  | moduleFailed path => "Failed to load entity module " ++ path
  | discovered directory names =>
    "Entity discovery under " ++ directory ++ " finished: " ++ listed "(none)" names

end Event
end SqlMapper
