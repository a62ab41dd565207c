import SqlMapper.Validation
/-!
# SqlMapper.Engine.Paging

Requests for one page of a result, which are completed with what was found.
-/

namespace SqlMapper

/-- A page: which rows are asked for, and what was found. -/
structure Paging where
  /-- How many rows come before the page. -/
  index : Int := 0
  /-- How many rows the page has at most. -/
  size : Int := 10
  /-- The number of all rows. -/
  count : Option Int := none
  /-- The rows of the page. -/
  items : Option (List Value) := none

namespace Paging

open Validation

/-- The page that named values describe. What else is named does not matter. -/
def ofValues (values : List (String × Value)) : Except (List Issue) Paging :=
  let index := field values "index" (some 0) (integerFrom 0)
  let size := field values "size" (some 10) (integerFrom 1)
  let count := field values "count" (some none) (optional (integerFrom 0))
  let items := field values "items" (some none) (optional list)
  match index, size, count, items with
  | .ok index, .ok size, .ok count, .ok items => .ok { index, size, count, items }
  | _, _, _, _ => .error (issue? index ++ issue? size ++ issue? count ++ issue? items)

end Paging
end SqlMapper
