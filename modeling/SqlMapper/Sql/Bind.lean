import SqlMapper.Value.Comparison
/-!
# SqlMapper.Sql.Bind

One bind per item of a sequence. The items are numbered, and the name of each bind is built from the
sequence's name and the item's number: `bindList` gives the placeholders for the statement,
`bindMap` the values under the same names.
-/

namespace SqlMapper.Sql

/-- The name of the bind for one item. -/
def bindName (name : String) (i : Nat) : String := "_" ++ name ++ "_" ++ toString i

/-- The placeholders for `n` items. -/
def bindList (sep name : String) (n : Nat) : String :=
  String.intercalate sep ((List.range n).map fun i => ":" ++ bindName name i)

/-- The items under the names of their binds. -/
def bindMap (name : String) (xs : List Value) : List (String × Value) :=
  xs.zipIdx.map fun (x, i) => (bindName name i, x)

@[simp] theorem length_bindMap (name : String) (xs : List Value) :
    (bindMap name xs).length = xs.length := by simp [bindMap]

/-- The keys are the names of the binds, in order. -/
theorem map_fst_bindMap (name : String) (xs : List Value) :
    (bindMap name xs).map (·.1) = (List.range xs.length).map (bindName name) := by
  apply List.ext_getElem <;> simp [bindMap]

end SqlMapper.Sql
