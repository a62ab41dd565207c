import SqlMapper.Proofs.Discovery.Attempts
import SqlMapper.Proofs.Discovery.Exactness
/-!
# SqlMapper.Proofs.Discovery.Repair

What becomes of a file whose module has failed, and that is then replaced. The attempt is undone except for the tables
that it has declared (`Loader.loadModule_of_failed`). So a new module that would go through without these goes through
exactly if it declares none of them (`Repair.repaired_iff`); a module that only failed too late is not repaired by taking
away what failed (`not_repaired`).
-/

namespace SqlMapper.Discovery

/-- Tables without those that have been left behind. -/
def TableNames.without (tables left : TableNames) : TableNames := tables.filter fun t => !left.contains t

/-- **Of the tables that are left behind only its own are in the way of a module** that would go through without them;
and if they are, it fails. -/
theorem runItems_of_without {tables left : TableNames} {items : List Item} {n : Namespace}
    (h : (runItems [] (tables.without left) items).1 = some n) (hleft : left ⊆ tables) :
    (runItems [] tables items).1 = if ∀ t ∈ tablesOf items, t ∉ left then some n else none := by
  obtain ⟨hbinds, hnew⟩ := runItems_eq_some_iff.mp h
  split_ifs with hclear
  · refine runItems_eq_some_iff.mpr ⟨hbinds, fun t ht hthere => hnew t ht ?_⟩
    simpa [TableNames.without, hthere] using hclear t ht
  · rw [Option.eq_none_iff_forall_ne_some]
    intro n' hn'
    exact hclear fun t ht hthere => (runItems_eq_some_iff.mp hn').2 t ht (hleft hthere)

namespace Loader

variable {s u : Loader} {q : Path} {items : List Item}

/-- The tables that an attempt at loading a module leaves behind. -/
def leftBehind (s : Loader) (q : Path) : TableNames := tablesOf (executed [] s.declared ((s.items? q).getD []))

/-- **A failed attempt is undone, except for the tables** that the module has declared before it failed. -/
theorem loadModule_of_failed (h : (s.loadModule q).1 = none) :
    s.loaded.lookup q = none ∧ (s.loadModule q).2 = { s with declared := s.declared ++ s.leftBehind q } := by
  unfold loadModule at h ⊢
  unfold leftBehind
  cases hloaded : s.loaded.lookup q with
  | some n =>
      rw [hloaded] at h
      cases h
  | none =>
      refine ⟨rfl, ?_⟩
      rw [hloaded] at h
      cases hitems : s.items? q with
      | none => simp [executed]
      | some items =>
          have htables := tables_of_runItems [] s.declared items
          rw [hitems] at h
          dsimp only at h ⊢
          cases hrun : runItems [] s.declared items with
          | mk outcome declared =>
              rw [hrun] at h htables
              cases outcome with
              | some n => cases h
              | none => rw [Option.getD_some, ← htables]

/-- How a load comes to a file for the first time, and finds the loader in a certain state. -/
structure ComesTo (s : Loader) (root : Path) (excluded : List String) (q : Path) (turn : Loader) where
  before : List Path
  path : Path
  after : List Path
  found : List Declared
  files : s.tree.walk isModuleName excluded.contains root = before ++ path :: after
  leads : s.tree.realPath path = .ok q
  first : ∀ p ∈ before, s.tree.realPath p ≠ .ok q
  turn_eq : s.loadAll [] before = (.ok found, turn)

namespace ComesTo

variable {root : Path} {excluded : List String}

theorem tree_eq (c : s.ComesTo root excluded q u) : u.tree = s.tree := by
  have h := (undisturbed_loadAll s [] c.before).tree
  rwa [c.turn_eq] at h

theorem loadAll_eq (c : s.ComesTo root excluded q u) :
    s.loadAll [] (s.tree.walk isModuleName excluded.contains root) =
      (u.come c.found q).2.loadAll (u.come c.found q).1 c.after := by
  rw [c.files, loadAll_append c.turn_eq, loadAll_cons (c.tree_eq ▸ c.leads)]

/-- The file has the module then that it had before. -/
theorem lookup_eq (c : s.ComesTo root excluded q u) : u.loaded.lookup q = s.loaded.lookup q := by
  have h := lookup_loadAll c.first []
  rwa [c.turn_eq] at h

theorem declared_subset (c : s.ComesTo root excluded q u) : s.declared ⊆ u.declared := by
  have h := declared_subset_loadAll s [] c.before
  rwa [c.turn_eq] at h

/-- What is declared when the load has left the file is declared when it is over. -/
theorem declared_subset_after (c : s.ComesTo root excluded q u) :
    (u.loadModule q).2.declared ⊆ (s.loadEntities root excluded).2.declared := by
  obtain ⟨tables, events, hafter⟩ := loadEntities_loadAll s root excluded
  rw [hafter, c.loadAll_eq, ← (sameModules_come u c.found q).declared]
  exact declared_subset_loadAll _ _ _

/-- The module that the file has when the load has left it, or its failure, is what it has when the load is over. -/
theorem lookup_after (c : s.ComesTo root excluded q u) :
    (s.loadEntities root excluded).2.loaded.lookup q = (u.loadModule q).1 := by
  obtain ⟨tables, events, hafter⟩ := loadEntities_loadAll s root excluded
  have hsettled := ((settled_loadModule u q).congr (sameModules_come u c.found q)).loadAll (u.come c.found q).1 c.after
  rw [hafter, c.loadAll_eq]
  exact hsettled.lookup_eq

/-- The classes of the module are found. -/
theorem entities_subset (c : s.ComesTo root excluded q u) {n : Namespace} (hn : (u.loadModule q).1 = some n)
    {found : List Declared} (h : (s.loadAll [] (s.tree.walk isModuleName excluded.contains root)).1 = .ok found) :
    n.entities ⊆ found := by
  rw [c.loadAll_eq] at h
  refine List.Subset.trans ?_ (subset_loadAll h)
  unfold come
  cases hload : u.loadModule q with
  | mk outcome u₁ =>
      rw [hload] at hn
      obtain rfl : outcome = some n := hn
      intro d hd
      by_cases hthere : d ∈ c.found <;> simp [addNew, hd, hthere]

end ComesTo
end Loader

/-- A file whose module fails in a load, whatever has happened before. -/
structure FailedImport where
  loader : Loader
  root : Path
  excluded : List String
  file : Path
  /-- The loader when the load comes to the file. -/
  turn : Loader
  comes : loader.ComesTo root excluded file turn
  fails : (turn.loadModule file).1 = none

namespace FailedImport

/-- The tables that the attempt leaves behind. -/
def left (f : FailedImport) : TableNames := f.turn.leftBehind f.file

/-- The loader when the load is over and the files have been changed. -/
def after (f : FailedImport) (tree : FileTree (List Item)) : Loader :=
  { (f.loader.loadEntities f.root f.excluded).2 with tree }

variable (f : FailedImport) (tree : FileTree (List Item))

theorem lookup_after : (f.after tree).loaded.lookup f.file = none := f.comes.lookup_after.trans f.fails

theorem left_subset_after : f.left ⊆ (f.after tree).declared := by
  obtain ⟨-, hfailed⟩ := Loader.loadModule_of_failed f.fails
  have hkept := f.comes.declared_subset_after
  rw [hfailed] at hkept
  exact List.Subset.trans (List.subset_append_right _ _) hkept

end FailedImport

/-- The file has been replaced, and another load comes to it. What the file holds now would go through, all else being as
it is then, had its module not been tried before. -/
structure Repair extends FailedImport where
  tree : FileTree (List Item)
  items : List Item
  replaced : (toFailedImport.after tree).items? file = some items
  nextRoot : Path
  nextExcluded : List String
  nextTurn : Loader
  comesAgain : (toFailedImport.after tree).ComesTo nextRoot nextExcluded file nextTurn
  module : Namespace
  would : (runItems [] (nextTurn.declared.without toFailedImport.left) items).1 = some module

namespace Repair

variable (r : Repair)

/-- The loader before the load that is to find the classes of the new module. -/
def start : Loader := r.toFailedImport.after r.tree

/-- Does the new module declare none of the tables that the old one has left? -/
def IsClear : Prop := ∀ t ∈ tablesOf r.items, t ∉ r.left

instance : Decidable r.IsClear := by
  unfold IsClear
  infer_instance

theorem loadModule_next : (r.nextTurn.loadModule r.file).1 = if r.IsClear then some r.module else none := by
  have hnone : r.nextTurn.loaded.lookup r.file = none :=
    r.comesAgain.lookup_eq.trans (r.toFailedImport.lookup_after r.tree)
  have hitems : r.nextTurn.items? r.file = some r.items := by
    rw [Loader.items?, r.comesAgain.tree_eq]
    exact r.replaced
  have hleft : r.left ⊆ r.nextTurn.declared :=
    List.Subset.trans (r.toFailedImport.left_subset_after r.tree) r.comesAgain.declared_subset
  have hrun := runItems_of_without r.would hleft
  unfold IsClear
  rw [← hrun, Loader.loadModule, hnone, hitems]
  dsimp only
  obtain ⟨_ | n, declared⟩ := runItems [] r.nextTurn.declared r.items <;> rfl

/-- **A failed module is repaired exactly if the new one declares none of the tables that it has left.** Then the next
load that comes to the file imports it, and its classes are among those that the load finds; else it fails again. A load
gives back what it finds if the tables that are missing can be made, and it finds something unless links lead around in a
circle. -/
theorem repaired_iff :
    (r.start.loadEntities r.nextRoot r.nextExcluded).2.loaded.lookup r.file =
        (if r.IsClear then some r.module else none) ∧
      ((∀ p ∈ r.start.tree.walk isModuleName r.nextExcluded.contains r.nextRoot, ∃ q, r.start.tree.realPath p = .ok q) →
        ∃ found, Loader.Answers r.start.tables found (r.start.loadEntities r.nextRoot r.nextExcluded).1 ∧
          (r.IsClear → r.module.entities ⊆ found)) := by
  refine ⟨r.comesAgain.lookup_after.trans r.loadModule_next, fun hpaths => ?_⟩
  obtain ⟨found, hfound⟩ := Loader.exists_of_realPath hpaths []
  refine ⟨found, Loader.answers_loadEntities hfound, fun hclear => ?_⟩
  refine r.comesAgain.entities_subset ?_ hfound
  rw [r.loadModule_next, if_pos hclear]

end Repair

/-- A load comes to the module of a directory that has only one. -/
def comesToOneModule {s : Loader} (items : List Item) (h : s.tree = (oneModule items).tree) :
    s.ComesTo [] [] ["m.py"] s where
  before := []
  path := ["m.py"]
  after := []
  found := []
  files := by rw [h, walk_oneModule]; rfl
  leads := by rw [h]; rfl
  first := nofun
  turn_eq := rfl

/-- A module that fails when it has declared a class. -/
def tooLate : List Item := [.table "A" "a", .fail "too late"]

theorem declared_tooLate : ((oneModule tooLate).loadEntities [] []).2.declared = catalogueTables ++ ["a"] := by
  rw [Loader.loadEntities, walk_oneModule]
  rfl

/-- The module is replaced by one that would go through. -/
def tooLateReplaced (items : List Item) (module : Namespace)
    (would : (runItems [] (TableNames.without (catalogueTables ++ ["a"]) ["a"]) items).1 = some module) : Repair where
  loader := oneModule tooLate
  root := []
  excluded := []
  file := ["m.py"]
  turn := oneModule tooLate
  comes := comesToOneModule tooLate rfl
  fails := rfl
  tree := (oneModule items).tree
  items
  replaced := rfl
  nextRoot := []
  nextExcluded := []
  nextTurn := _
  comesAgain := comesToOneModule items rfl
  module
  would := by
    change (runItems [] (TableNames.without ((oneModule tooLate).loadEntities [] []).2.declared ["a"]) items).1 = _
    rw [declared_tooLate]
    exact would

/-- The class has another table now. -/
def renamed : Repair := tooLateReplaced [.table "A" "b"] [("A", .declared ⟨"A", "b"⟩)] rfl

theorem renamed_repaired :
    (renamed.start.loadEntities renamed.nextRoot renamed.nextExcluded).2.loaded.lookup ["m.py"] =
      some [("A", .declared ⟨"A", "b"⟩)] := by
  have hclear : renamed.IsClear := by decide
  have hlookup := renamed.repaired_iff.1
  rwa [if_pos hclear] at hlookup

/-- What failed is taken away. -/
def mended : Repair := tooLateReplaced [.table "A" "a"] [("A", .declared ⟨"A", "a"⟩)] rfl

/-- Not every failed module is repaired by one that would go through had it not been tried: the class that it declared
before it failed is in the way of the same class. -/
theorem not_repaired :
    ¬ ∀ r : Repair, (r.start.loadEntities r.nextRoot r.nextExcluded).2.loaded.lookup r.file = some r.module := by
  intro h
  have hclear : ¬ mended.IsClear := by decide
  have hlookup := mended.comesAgain.lookup_after.symm.trans (h mended)
  rw [mended.loadModule_next, if_neg hclear] at hlookup
  cases hlookup

end SqlMapper.Discovery
