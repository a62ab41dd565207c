import SqlMapper.Discovery.Loader
import SqlMapper.Proofs.Discovery.Walk
/-!
# SqlMapper.Proofs.Discovery.Imports

What a process imports. A `Process` remembers every execution of a module and nothing else; the module of a file is
that of its first execution that went through (`Process.module?`). A loader, which keeps modules instead, agrees with
it (`Agrees`): it executes what the process executes, and has the modules of the process at hand.
-/

namespace SqlMapper.Discovery

/-! ### What a module binds -/

namespace Namespace

variable {n n' : Namespace} {d : Declared} {name : String} {b b' : Binding}

/-- The classes that a namespace binds, as often as it binds them. -/
def classes (n : Namespace) : List Declared :=
  n.filterMap fun (_, b) =>
    match b with
    | .declared d => some d
    | .other _ => none

theorem mem_classes_iff : d ∈ n.classes ↔ ∃ name, (name, .declared d) ∈ n := by
  unfold classes
  rw [List.mem_filterMap]
  constructor
  · rintro ⟨⟨name, b⟩, hb, h⟩
    cases b with
    | declared d' =>
        cases h
        exact ⟨name, hb⟩
    | other _ => cases h
  · rintro ⟨name, hname⟩
    exact ⟨_, hname, rfl⟩

theorem mem_of_mem_bind {k : String} (h : (k, b') ∈ n.bind name b) : b' = b ∨ (k, b') ∈ n := by
  induction n with
  | nil =>
      obtain ⟨-, rfl⟩ : k = name ∧ b' = b := by simpa [bind] using h
      exact .inl rfl
  | cons entry rest ih =>
      obtain ⟨name', old⟩ := entry
      rw [bind] at h
      split at h
      next =>
        rcases List.mem_cons.mp h with h | h
        · cases h
          exact .inl rfl
        · exact .inr (List.mem_cons_of_mem _ h)
      next =>
        rcases List.mem_cons.mp h with h | h
        · cases h
          exact .inr List.mem_cons_self
        · exact (ih h).imp_right (List.mem_cons_of_mem _)

/-- A class that is bound anew is the one that is bound, or was there before. -/
theorem mem_classes_of_bind (h : d ∈ (n.bind name b).classes) : b = .declared d ∨ d ∈ n.classes := by
  obtain ⟨k, hk⟩ := mem_classes_iff.mp h
  exact (mem_of_mem_bind hk).imp Eq.symm fun h => mem_classes_iff.mpr ⟨k, h⟩

end Namespace

variable {n n' : Namespace} {tables tables' : TableNames} {d : Declared} {items : List Item}

/-- **What a statement declares**: a class that is bound after it was bound before, or is declared by it under a table
that there was not. -/
theorem Item.classes_of_run {i : Item} (h : i.run n tables = (some n', tables')) (hd : d ∈ n'.classes) :
    d ∈ n.classes ∨ i = .table d.name d.table ∧ d.table ∉ tables ∧ d.table ∈ tables' := by
  have other {name : String} {c : Bool} (h : d ∈ (n.bind name (.other c)).classes) : d ∈ n.classes :=
    (Namespace.mem_classes_of_bind h).resolve_left nofun
  cases i with
  | table name t =>
      simp only [run] at h
      split at h
      next => cases h
      next hnew =>
        cases h
        rcases Namespace.mem_classes_of_bind hd with hd | hd
        · cases hd
          exact .inr ⟨rfl, by simpa using hnew, by simp⟩
        · exact .inl hd
  | record name | plain name =>
      cases h
      exact .inl (other hd)
  | rebind name source =>
      simp only [run] at h
      split at h
      next b hb =>
        cases h
        rcases Namespace.mem_classes_of_bind hd with rfl | hd
        · obtain ⟨before, after, rfl, -⟩ := List.lookup_eq_some_iff.mp hb
          exact .inl (Namespace.mem_classes_iff.mpr ⟨source, by simp⟩)
        · exact .inl hd
      next => cases h
  | reference name =>
      simp only [run] at h
      split at h
      next =>
        cases h
        exact .inl (other hd)
      next => cases h
  | makeInstance name =>
      simp only [run] at h
      split at h
      case h_3 => cases h
      all_goals
        cases h
        exact .inl hd
  | fail reason => cases h

/-- No statement forgets a table, also if it fails. -/
theorem Item.subset_run (n : Namespace) (tables : TableNames) (i : Item) : tables ⊆ (i.run n tables).2 := by
  cases i <;> simp only [run] <;> (try split) <;> simp

theorem subset_runItems (n : Namespace) (tables : TableNames) (items : List Item) :
    tables ⊆ (runItems n tables items).2 := by
  induction items generalizing n tables with
  | nil => exact List.Subset.refl _
  | cons i items ih =>
      rw [runItems]
      have hi := i.subset_run n tables
      split
      next n' tables' h =>
        rw [h] at hi
        exact List.Subset.trans hi (ih n' tables')
      next tables' h =>
        rw [h] at hi
        exact hi

/-- The classes that a module binds are those that it declares, each under a table that there was not. -/
theorem classes_of_runItems (h : runItems n tables items = (some n', tables')) (hd : d ∈ n'.classes) :
    d ∈ n.classes ∨ .table d.name d.table ∈ items ∧ d.table ∉ tables ∧ d.table ∈ tables' := by
  induction items generalizing n tables with
  | nil =>
      cases h
      exact .inl hd
  | cons i items ih =>
      rw [runItems] at h
      split at h
      next n₁ tables₁ hi =>
        have hkept : tables ⊆ tables₁ := by
          have := i.subset_run n tables
          rwa [hi] at this
        have hkept' : tables₁ ⊆ tables' := by
          have := subset_runItems n₁ tables₁ items
          rwa [h] at this
        rcases ih h with hd | ⟨hdeclared, hnew, hthere⟩
        · rcases Item.classes_of_run hi hd with hd | ⟨rfl, hnew, hthere⟩
          · exact .inl hd
          · exact .inr ⟨List.mem_cons_self, hnew, hkept' hthere⟩
        · exact .inr ⟨List.mem_cons_of_mem _ hdeclared, fun ht => hnew (hkept ht), hthere⟩
      next => cases h

/-! ### Processes -/

/-- One execution of a module: its statements at the time, and what it bound if it went through. -/
structure Execution where
  path : Path
  items : List Item
  outcome : Option Namespace

/-- The classes of what a module bound, if it went through. -/
def classesOf (outcome : Option Namespace) : List Declared := outcome.elim [] Namespace.classes

theorem mem_classesOf_iff {outcome : Option Namespace} :
    d ∈ classesOf outcome ↔ ∃ n, outcome = some n ∧ d ∈ n.classes := by
  cases outcome <;> simp [classesOf]

/-- Have two executions bound no class in common? -/
def Execution.Apart (e e' : Execution) : Prop :=
  ∀ d ∈ classesOf e.outcome, ∀ d' ∈ classesOf e'.outcome, d.table ≠ d'.table

instance : Std.Symm Execution.Apart where
  symm _ _ h d hd d' hd' := (h d' hd' d hd).symm

/-- What has happened in a process: the tables that have been declared, and the executions of modules in their
order. -/
structure Process where
  declared : TableNames
  executions : List Execution := []

namespace Process

/-- The module of a path, which is that of its first execution that went through. -/
def module? (P : Process) (p : Path) : Option Namespace :=
  P.executions.findSome? fun e => if e.path = p then e.outcome else none

/-- Execute statements as the module of a path. -/
def execute (P : Process) (p : Path) (items : List Item) : Process :=
  ⟨(runItems [] P.declared items).2, P.executions ++ [⟨p, items, (runItems [] P.declared items).1⟩]⟩

variable {P : Process} {p q : Path} {tree : FileTree (List Item)} {files : List Path}

/-- Is every class that has been bound declared by the execution that bound it, under a table of its own? -/
structure Lawful (P : Process) : Prop where
  declares : ∀ e ∈ P.executions, ∀ d ∈ classesOf e.outcome, .table d.name d.table ∈ e.items ∧ d.table ∈ P.declared
  apart : P.executions.Pairwise Execution.Apart

theorem Lawful.execute (hP : P.Lawful) (p : Path) (items : List Item) : (P.execute p items).Lawful := by
  have hkept : P.declared ⊆ (runItems [] P.declared items).2 := subset_runItems [] P.declared items
  have hnew : ∀ d ∈ classesOf (runItems [] P.declared items).1, .table d.name d.table ∈ items ∧
      d.table ∉ P.declared ∧ d.table ∈ (runItems [] P.declared items).2 := by
    intro d hd
    obtain ⟨n, hn, hd⟩ := mem_classesOf_iff.mp hd
    exact (classes_of_runItems (Prod.ext hn rfl) hd).resolve_left nofun
  constructor
  · intro e he d hd
    rcases List.mem_append.mp he with he | he
    · exact (hP.declares e he d hd).imp_right fun h => hkept h
    · obtain rfl := List.mem_singleton.mp he
      obtain ⟨hdeclared, -, hthere⟩ := hnew d hd
      exact ⟨hdeclared, hthere⟩
  · refine List.pairwise_append.mpr ⟨hP.apart, List.pairwise_singleton _ _, fun e he e' he' d hd d' hd' hdd => ?_⟩
    obtain rfl := List.mem_singleton.mp he'
    obtain ⟨-, hnot, -⟩ := hnew d' hd'
    exact hnot (hdd ▸ (hP.declares e he d hd).2)

end Process

/-! ### Lists without what occurs again -/

/-- Does a loader have at hand what a process has imported? -/
structure Agrees (s : Loader) (P : Process) : Prop where
  declared : s.declared = P.declared
  loaded : ∀ p, s.loaded.lookup p = P.module? p

namespace Loader

variable {s : Loader} {P : Process} {p : Path} {files : List Path} {found : List Declared}

/-- Has loading left the files and the tables as they were? -/
structure Undisturbed (s s' : Loader) : Prop where
  tree : s'.tree = s.tree
  tables : s'.tables = s.tables

theorem undisturbed_loadModule (s : Loader) (p : Path) : Undisturbed s (s.loadModule p).2 := by
  unfold loadModule
  split
  next => exact ⟨rfl, rfl⟩
  next =>
    split
    next => exact ⟨rfl, rfl⟩
    next => split <;> exact ⟨rfl, rfl⟩

theorem undisturbed_loadAll (s : Loader) (found : List Declared) (files : List Path) :
    Undisturbed s (s.loadAll found files).2 := by
  induction files generalizing s found with
  | nil => exact ⟨rfl, rfl⟩
  | cons p files ih =>
      rw [loadAll]
      split
      next => exact ⟨rfl, rfl⟩
      next q _ =>
        have hmodule := undisturbed_loadModule s q
        split
        next n s₁ h =>
          rw [h] at hmodule
          have hrest := ih s₁ (addNew found n.entities)
          exact ⟨hrest.tree.trans hmodule.tree, hrest.tables.trans hmodule.tables⟩
        next s₁ h =>
          rw [h] at hmodule
          have hrest := ih (s₁.log (.moduleFailed (s₁.shown q))) found
          exact ⟨hrest.tree.trans hmodule.tree, hrest.tables.trans hmodule.tables⟩

end Loader
end SqlMapper.Discovery
