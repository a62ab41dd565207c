/-!
# SqlMapper.Text.Path

Paths of files as texts. A path is a list of parts between slashes; parts that say nothing, the empty
one and `.`, are left out, and `..` is kept because its meaning depends on links.
-/

namespace SqlMapper.Path

/-- Does a part say nothing? -/
def isVoid (part : String) : Bool := part == "" || part == "."

/-- The parts of a path that say something. -/
def parts (path : String) : List String := (path.splitOn "/").filter fun p => !isVoid p

/-- The slashes that an absolute path starts with: exactly two have a meaning of their own, any other
number means one. -/
def anchor (path : String) : String :=
  match path.toList.takeWhile (· == '/') with
  | [] => ""
  | ['/', '/'] => "//"
  | _ => "/"

/-- The one spelling of a path. -/
def normal (path : String) : String :=
  match anchor path ++ String.intercalate "/" (parts path) with
  | "" => "."
  | p => p

end SqlMapper.Path
