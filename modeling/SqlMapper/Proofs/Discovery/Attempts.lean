import SqlMapper.Proofs.Discovery.Execution
/-!
# SqlMapper.Proofs.Discovery.Attempts

What it leaves to load a module. After an attempt the module is settled (`Loader.settled_loadModule`): it is at hand, or
it has failed and fails again as long as its file stays, since the tables that it has declared are there. It stays
settled whatever else is loaded (`Loader.Settled.loadAll`).
-/

namespace SqlMapper.Discovery
namespace Loader

variable {s s' t : Loader} {p q : Path} {answer : Option Namespace}

/-! ### Settled modules -/

/-- Has a module been loaded, or can it not be loaded any more? -/
inductive Settled (s : Loader) (p : Path) : Option Namespace → Prop
  | loaded {n : Namespace} (h : s.loaded.lookup p = some n) : Settled s p (some n)
  | absent (h : s.loaded.lookup p = none) (hitems : s.items? p = none) : Settled s p none
  | failed {items : List Item} (h : s.loaded.lookup p = none) (hitems : s.items? p = some items)
      (hfails : ∀ tables, s.declared ⊆ tables → runItems [] tables items = (none, tables)) : Settled s p none

/-- To load a settled module changes nothing. -/
theorem Settled.loadModule_eq (h : s.Settled p answer) : s.loadModule p = (answer, s) := by
  unfold Loader.loadModule
  cases h with
  | loaded h => rw [h]
  | absent h hitems => rw [h, hitems]
  | failed h hitems hfails => simp only [h, hitems, hfails s.declared (List.Subset.refl _)]

theorem Settled.lookup_eq (h : s.Settled p answer) : s.loaded.lookup p = answer := by
  cases h with
  | loaded h => exact h
  | absent h => exact h
  | failed h => exact h

/-- **A module is settled once it has been loaded**, whether it went through or failed. -/
theorem settled_loadModule (s : Loader) (p : Path) : (s.loadModule p).2.Settled p (s.loadModule p).1 := by
  unfold loadModule
  cases hloaded : s.loaded.lookup p with
  | some n => exact .loaded hloaded
  | none =>
      cases hitems : s.items? p with
      | none => exact .absent hloaded hitems
      | some items =>
          dsimp only
          cases hrun : runItems [] s.declared items with
          | mk outcome tables =>
              cases outcome with
              | some n => exact .loaded (by simp [List.lookup_append, hloaded])
              | none =>
                  refine .failed hloaded hitems fun tables' hthere => ?_
                  exact runItems_again (congrArg Prod.fst hrun) (by rwa [hrun])

/-- What loading a module may change: tables are declared, and the module is kept. -/
theorem loadModule_cases (s : Loader) (p : Path) :
    ∃ declared kept, (s.loadModule p).2 = { s with declared, loaded := s.loaded ++ kept } ∧ s.declared ⊆ declared ∧
      ∀ q, q ≠ p → kept.lookup q = none := by
  have same : s = { s with declared := s.declared, loaded := s.loaded ++ [] } := by simp
  unfold loadModule
  split
  next => exact ⟨s.declared, [], same, List.Subset.refl _, fun _ _ => rfl⟩
  next =>
    split
    next => exact ⟨s.declared, [], same, List.Subset.refl _, fun _ _ => rfl⟩
    next items _ =>
      have hkept := subset_runItems [] s.declared items
      split
      next n declared hrun =>
        rw [hrun] at hkept
        exact ⟨declared, [(p, n)], rfl, hkept, fun q hq => by simp [List.lookup_cons, beq_false_of_ne hq]⟩
      next declared hrun =>
        rw [hrun] at hkept
        exact ⟨declared, [], by simp, hkept, fun _ _ => rfl⟩

/-- **A settled module stays so** when another one is loaded. -/
theorem Settled.loadModule (h : s.Settled q answer) (p : Path) : (s.loadModule p).2.Settled q answer := by
  by_cases hqp : q = p
  · subst hqp
    rwa [h.loadModule_eq]
  · obtain ⟨declared, kept, hs, hdeclared, hkept⟩ := loadModule_cases s p
    have hlookup : (s.loaded ++ kept).lookup q = s.loaded.lookup q := by
      rw [List.lookup_append, hkept q hqp, Option.or_none]
    rw [hs]
    cases h with
    | loaded h => exact .loaded (hlookup.trans h)
    | absent h hitems => exact .absent (hlookup.trans h) hitems
    | failed h hitems hfails =>
        exact .failed (hlookup.trans h) hitems fun tables hthere => hfails tables (List.Subset.trans hdeclared hthere)

/-- Do two loaders have the same files, and have they loaded the same? They may have said different things, and have
different databases. -/
structure SameModules (s t : Loader) : Prop where
  tree : t.tree = s.tree
  base : t.base = s.base
  declared : t.declared = s.declared
  loaded : t.loaded = s.loaded

theorem SameModules.shown (h : s.SameModules t) (p : Path) : t.shown p = s.shown p := by
  rw [Loader.shown, Loader.shown, h.base]

theorem Settled.congr (h : s.Settled p answer) (hst : s.SameModules t) : t.Settled p answer := by
  have hitems : t.items? p = s.items? p := by rw [items?, items?, hst.tree]
  cases h with
  | loaded h => exact .loaded (hst.loaded ▸ h)
  | absent h hnone => exact .absent (hst.loaded ▸ h) (hitems.trans hnone)
  | failed h hsome hfails => exact .failed (hst.loaded ▸ h) (hitems.trans hsome) (hst.declared ▸ hfails)

/-! ### Files one after another -/

/-- Come to the file of a module, with the classes found so far. -/
def come (s : Loader) (found : List Declared) (q : Path) : List Declared × Loader :=
  match s.loadModule q with
  | (some n, s) => (addNew found n.entities, s)
  | (none, s) => (found, s.log (.moduleFailed (s.shown q)))

theorem loadAll_cons (hpath : s.tree.realPath p = .ok q) (found : List Declared) (files : List Path) :
    s.loadAll found (p :: files) = (s.come found q).2.loadAll (s.come found q).1 files := by
  rw [loadAll, hpath, come]
  dsimp only
  obtain ⟨_ | n, s₁⟩ := s.loadModule q <;> rfl

theorem loadAll_cons_of_error {r : Path} (hpath : s.tree.realPath p = .error r) (found : List Declared)
    (files : List Path) : s.loadAll found (p :: files) = (.error (.circle (s.shown r)), s) := by
  rw [loadAll, hpath]

theorem sameModules_come (s : Loader) (found : List Declared) (q : Path) :
    (s.loadModule q).2.SameModules (s.come found q).2 := by
  unfold come
  split
  next h =>
    rw [h]
    exact ⟨rfl, rfl, rfl, rfl⟩
  next h =>
    rw [h]
    exact ⟨rfl, rfl, rfl, rfl⟩

/-- What has been found is found. -/
theorem subset_come (s : Loader) (found : List Declared) (q : Path) : found ⊆ (s.come found q).1 := by
  unfold come
  split
  next => exact List.subset_append_left _ _
  next => exact List.Subset.refl _

/-- What holds of a loader that comes to some files, and still holds when it has come to one of them, holds when it has
come to all. -/
theorem loadAll_induction {motive : Loader → Prop} {files : List Path} (h : motive s)
    (hcome : ∀ s found p q, p ∈ files → s.tree.realPath p = .ok q → motive s → motive (s.come found q).2)
    (found : List Declared) : motive (s.loadAll found files).2 := by
  induction files generalizing s found with
  | nil => exact h
  | cons p files ih =>
      cases hpath : s.tree.realPath p with
      | error r => rwa [loadAll_cons_of_error hpath]
      | ok q =>
          rw [loadAll_cons hpath]
          exact ih (hcome s found p q List.mem_cons_self hpath h)
            (fun s found p' q hp' => hcome s found p' q (List.mem_cons_of_mem _ hp')) _

theorem loadAll_append {found found' : List Declared} {before : List Path} (h : s.loadAll found before = (.ok found', s'))
    (after : List Path) : s.loadAll found (before ++ after) = s'.loadAll found' after := by
  induction before generalizing s found with
  | nil =>
      cases h
      rfl
  | cons p before ih =>
      rw [List.cons_append]
      cases hpath : s.tree.realPath p with
      | error r =>
          rw [loadAll_cons_of_error hpath] at h
          cases h
      | ok q =>
          rw [loadAll_cons hpath] at h ⊢
          exact ih h

/-- Nothing but a circle of links stops a loader. -/
theorem exists_of_realPath {files : List Path} (h : ∀ p ∈ files, ∃ q, s.tree.realPath p = .ok q)
    (found : List Declared) : ∃ found', (s.loadAll found files).1 = .ok found' := by
  induction files generalizing s found with
  | nil => exact ⟨found, rfl⟩
  | cons p files ih =>
      obtain ⟨⟨q, hpath⟩, hrest⟩ := List.forall_mem_cons.mp h
      have htree : (s.come found q).2.tree = s.tree :=
        (sameModules_come s found q).tree.trans (undisturbed_loadModule s q).tree
      rw [loadAll_cons hpath]
      exact ih (htree ▸ hrest) _

theorem subset_loadAll {found found' : List Declared} {files : List Path} (h : (s.loadAll found files).1 = .ok found') :
    found ⊆ found' := by
  induction files generalizing s found with
  | nil =>
      cases h
      exact List.Subset.refl _
  | cons p files ih =>
      cases hpath : s.tree.realPath p with
      | error r =>
          rw [loadAll_cons_of_error hpath] at h
          cases h
      | ok q =>
          rw [loadAll_cons hpath] at h
          exact List.Subset.trans (subset_come s found q) (ih h)

/-- **Files leave a settled module settled.** -/
theorem Settled.loadAll (h : s.Settled q answer) (found : List Declared) (files : List Path) :
    (s.loadAll found files).2.Settled q answer :=
  loadAll_induction (motive := fun s => s.Settled q answer) h
    (fun s found _ r _ _ h => (h.loadModule r).congr (sameModules_come s found r)) found

theorem declared_subset_loadAll (s : Loader) (found : List Declared) (files : List Path) :
    s.declared ⊆ (s.loadAll found files).2.declared := by
  refine loadAll_induction (motive := fun t => s.declared ⊆ t.declared) (List.Subset.refl _)
    (fun t found _ r _ _ h => ?_) found
  obtain ⟨declared, kept, ht, hmore, -⟩ := loadModule_cases t r
  rw [(sameModules_come t found r).declared, ht]
  exact List.Subset.trans h hmore

/-- Files that lead elsewhere bring no module of a path. -/
theorem lookup_loadAll {files : List Path} (h : ∀ p ∈ files, s.tree.realPath p ≠ .ok q) (found : List Declared) :
    (s.loadAll found files).2.loaded.lookup q = s.loaded.lookup q := by
  refine (loadAll_induction (motive := fun t => t.tree = s.tree ∧ t.loaded.lookup q = s.loaded.lookup q) ⟨rfl, rfl⟩
    (fun t found p r hp hpath ht => ?_) found).2
  obtain ⟨htree, hloaded⟩ := ht
  obtain ⟨declared, kept, ht, -, hkept⟩ := loadModule_cases t r
  have hne : q ≠ r := by
    rintro rfl
    exact h p hp (htree ▸ hpath)
  have hsame := sameModules_come t found r
  rw [ht] at hsame
  rw [hsame.tree, hsame.loaded, List.lookup_append, hkept q hne, Option.or_none]
  exact ⟨htree, hloaded⟩

end Loader
end SqlMapper.Discovery
