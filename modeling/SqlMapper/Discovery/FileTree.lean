/-!
# SqlMapper.Discovery.FileTree

Trees of files, directories and symbolic links. A path is the list of names from the root; a link leads
to a path. Going through a tree follows links, but no path may lead through more than forty of them
(`maxLinks`), so that every walk ends, also in a tree whose links lead upwards.

A path is resolved in two ways. `locate?` says which file or directory it denotes, if any.
`realPath` gives the path without links also where it ends in nothing, and fails only where links lead
around in a circle.
-/

namespace SqlMapper.Discovery

/-- A path: the names from the root of the tree. -/
abbrev Path := List String

/-- What a name in a directory stands for. -/
inductive Entry (α : Type)
  | file (content : α)
  | directory
  | link (target : Path)

/-- A tree: its entries by path. The root is a directory and has no entry. -/
structure FileTree (α : Type) where
  entries : List (Path × Entry α) := []

namespace FileTree

variable {α : Type}

/-- How many links a path may lead through. -/
def maxLinks : Nat := 40

/-- The entry of a path, links not being followed. -/
def get? (t : FileTree α) : Path → Option (Entry α)
  | [] => some .directory
  | p => t.entries.lookup p

/-- The names in a directory. -/
def names (t : FileTree α) (dir : Path) : List String :=
  t.entries.filterMap fun (p, _) =>
    match p.getLast? with
    | some name => if p = dir ++ [name] then some name else none
    | none => none

/-- The file or directory that is reached from a directory by a list of names, with the number of links
that may still be followed. -/
def locate? (t : FileTree α) (links : Nat) (dir : Path) : List String → Option (Path × Nat)
  | [] => some (dir, links)
  | name :: rest =>
    if name = ".." then t.locate? links dir.dropLast rest
    else
      let p := dir ++ [name]
      match t.get? p with
      | none => none
      | some .directory => t.locate? links p rest
      | some (.file _) => if rest.isEmpty then some (p, links) else none
      | some (.link target) =>
        match links with
        | 0 => none
        | n + 1 => t.locate? n [] (target ++ rest)
termination_by names => (links, names.length)

/-- The directory that is reached from a directory by a list of names. -/
def directory? (t : FileTree α) (links : Nat) (dir : Path) (names : List String) :
    Option (Path × Nat) :=
  match t.locate? links dir names with
  | some (p, n) =>
    match t.get? p with
    | some .directory => some (p, n)
    | _ => none
  | none => none

/-- The path without links of what is reached from a directory by a list of names, while the links of
`pending` are being resolved; and whether it was found without going around in a circle. -/
def follow (t : FileTree α) : Nat → List Path → Path → List String → Path × Bool
  | 0, _, dir, names => (dir ++ names, false)
  | _ + 1, _, dir, [] => (dir, true)
  | fuel + 1, pending, dir, name :: rest =>
    if name = ".." then t.follow fuel pending dir.dropLast rest
    else
      let p := dir ++ [name]
      match t.get? p with
      | some (.link target) =>
        if pending.contains p then (p ++ rest, false)
        else
          match t.follow fuel (p :: pending) [] target with
          | (q, true) => t.follow fuel pending q rest
          | (q, false) => (q ++ rest, false)
      | _ => t.follow fuel pending p rest

/-- A bound on the steps of resolving a path: no link is resolved inside itself. -/
def linkSteps (t : FileTree α) : Nat :=
  t.entries.foldl (fun n (_, e) =>
    match e with
    | .link target => n + target.length + 1
    | _ => n) 0

/-- The path without links of a path; the error is where links lead around in a circle. -/
def realPath (t : FileTree α) (p : Path) : Except Path Path :=
  match t.follow (t.linkSteps + p.length + 1) [] [] p with
  | (q, true) => .ok q
  | (q, false) => .error q

/-! ## Changes -/

/-- Put an entry at a path, in place of the one there. -/
def put (t : FileTree α) (p : Path) (e : Entry α) : FileTree α :=
  ⟨t.entries.filter (·.1 != p) ++ [(p, e)]⟩

/-- Make the directories on the way to a path. -/
def makeDirectories (t : FileTree α) (p : Path) : FileTree α :=
  (List.range p.length).foldl (fun t n =>
    let q := p.take n
    match t.get? q with
    | some _ => t
    | none => t.put q .directory) t

/-- The path without links that a new entry at a path gets, provided only that its directory can be
resolved. -/
def place (t : FileTree α) (p : Path) : Path :=
  match t.realPath p.dropLast with
  | .ok d => d ++ p.getLast?.toList
  | .error _ => p

/-- Write a file, through links. -/
def write (t : FileTree α) (p : Path) (content : α) : FileTree α :=
  let q := match t.realPath p with
    | .ok q => q
    | .error _ => p
  (t.makeDirectories q).put q (.file content)

/-- Make a link. -/
def link (t : FileTree α) (p target : Path) : FileTree α :=
  let q := t.place p
  (t.makeDirectories q).put q (.link target)

/-- Remove an entry, and what is below it. -/
def remove (t : FileTree α) (p : Path) : FileTree α :=
  let q := t.place p
  ⟨t.entries.filter fun (r, _) => !q.isPrefixOf r⟩

/-! ## Walking -/

/-- A subdirectory of a directory: its name, the directory it denotes, and the number of links that
may still be followed. -/
abbrev Subdirectory := String × Path × Nat

/-- The subdirectories of a directory. -/
def subdirectories (t : FileTree α) (links : Nat) (dir : Path) : List Subdirectory :=
  (t.names dir).filterMap fun name => (t.directory? links dir [name]).map fun d => (name, d)

/-- The names in a directory that are no directories, in ascending order. -/
def fileNames (t : FileTree α) (links : Nat) (dir : Path) : List String :=
  ((t.names dir).filter fun name => (t.directory? links dir [name]).isNone).mergeSort
    fun a b => !(b < a)

/-- The files below a directory whose names pass a test: first those in the directory by name, then
those below its subdirectories by name, except for the subdirectories of excluded names. -/
def filesBelow (t : FileTree α) (isWanted isExcluded : String → Bool) :
    Nat → Nat → Path → List Path
  | 0, _, _ => []
  | fuel + 1, links, dir =>
    let here := ((t.fileNames links dir).filter isWanted).map fun name => dir ++ [name]
    let below := ((t.subdirectories links dir).filter fun (name, _) => !isExcluded name).mergeSort
      fun a b => !(b.1 < a.1)
    here ++ below.flatMap fun (_, d, n) => filesBelow t isWanted isExcluded fuel n d

/-- A bound on the depth of a walk: between two links no directory is entered twice. -/
def depth (t : FileTree α) : Nat := (maxLinks + 1) * (t.entries.length + 2)

/-- The wanted files below a path; none if it denotes no directory. -/
def walk (t : FileTree α) (isWanted isExcluded : String → Bool) (p : Path) : List Path :=
  match t.directory? maxLinks [] p with
  | some (dir, links) => t.filesBelow isWanted isExcluded t.depth links dir
  | none => []

end FileTree
end SqlMapper.Discovery
