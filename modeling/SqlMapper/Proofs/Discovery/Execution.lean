import SqlMapper.Proofs.Discovery.Imports
/-!
# SqlMapper.Proofs.Discovery.Execution

What executing a module depends on, besides its statements: the tables that have been declared. The names that it
binds do not depend on them; but it fails at the first table that there is already. So a module goes through if it
does so where there are no tables, and none of its own is there (`runItems_eq_some_iff`), and one that has failed fails
again, and declares nothing this time (`runItems_again`).
-/

namespace SqlMapper.Discovery

/-- The table that a statement declares. -/
def Item.table? : Item → Option String
  | table _ t => some t
  | _ => none

/-- The tables that statements declare. -/
def tablesOf (items : List Item) : TableNames := items.filterMap Item.table?

/-- The statements of a module before the one at which it fails. -/
def executed (n : Namespace) (tables : TableNames) : List Item → List Item
  | [] => []
  | i :: rest =>
    match i.run n tables with
    | (some n, tables) => i :: executed n tables rest
    | (none, _) => []

variable {n n' : Namespace} {tables tables' more : TableNames} {items : List Item} {i : Item} {t : String}

@[simp] theorem tablesOf_nil : tablesOf [] = [] := rfl

theorem tablesOf_cons (i : Item) (items : List Item) :
    tablesOf (i :: items) = i.table?.toList ++ tablesOf items := by
  unfold tablesOf
  rw [List.filterMap_cons]
  cases i.table? <;> rfl

/-! ### One statement -/

/-- A statement that goes through binds what it binds where there are no tables, and its table was not there. -/
theorem Item.run_eq_some_iff :
    (i.run n tables).1 = some n' ↔ (i.run n []).1 = some n' ∧ ∀ t, i.table? = some t → t ∉ tables := by
  cases i with
  | table name t => by_cases ht : t ∈ tables <;> simp [run, table?, ht]
  | rebind name source => cases hb : n.lookup source <;> simp [run, table?, hb]
  | reference name => cases hc : Catalogue.find? name <;> simp [run, table?, hc]
  | makeInstance name =>
      simp only [run, table?]
      split <;> simp
  | record _ | plain _ | fail _ => simp [run, table?]

/-- A statement that fails still does where there are more tables. -/
theorem Item.run_eq_none_of_subset (h : (i.run n tables).1 = none) (hsub : tables ⊆ tables') :
    (i.run n tables').1 = none := by
  rw [Option.eq_none_iff_forall_ne_some] at h ⊢
  intro n' h'
  obtain ⟨hbinds, hnew⟩ := run_eq_some_iff.mp h'
  exact h n' (run_eq_some_iff.mpr ⟨hbinds, fun t ht hthere => hnew t ht (hsub hthere)⟩)

/-- The tables after a statement that goes through. -/
theorem Item.tables_of_run_some (h : (i.run n tables).1 = some n') :
    (i.run n tables).2 = tables ++ i.table?.toList := by
  cases i with
  | table name t =>
      have ht : t ∉ tables := (run_eq_some_iff.mp h).2 t rfl
      simp [run, table?, ht]
  | _ =>
      simp only [run, table?]
      repeat' split
      all_goals simp

/-- A statement that fails declares nothing. -/
theorem Item.tables_of_run_none (h : (i.run n tables).1 = none) : (i.run n tables).2 = tables := by
  cases i with
  | table name t =>
      have ht : t ∈ tables := by
        by_contra ht
        simp [run, ht] at h
      simp [run, ht]
  | _ =>
      simp only [run]
      repeat' split
      all_goals rfl

/-! ### Modules -/

theorem runItems_cons_of_some (h : (i.run n tables).1 = some n') (items : List Item) :
    runItems n tables (i :: items) = runItems n' (tables ++ i.table?.toList) items := by
  rw [runItems, Prod.ext (y := (some n', _)) h (Item.tables_of_run_some h)]

theorem runItems_cons_of_none (h : (i.run n tables).1 = none) (items : List Item) :
    runItems n tables (i :: items) = (none, tables) := by
  rw [runItems, Prod.ext (y := (none, _)) h (Item.tables_of_run_none h)]

theorem executed_cons_of_some (h : (i.run n tables).1 = some n') (items : List Item) :
    executed n tables (i :: items) = i :: executed n' (tables ++ i.table?.toList) items := by
  rw [executed, Prod.ext (y := (some n', _)) h (Item.tables_of_run_some h)]

theorem executed_cons_of_none (h : (i.run n tables).1 = none) (items : List Item) :
    executed n tables (i :: items) = [] := by
  rw [executed, Prod.ext (y := (none, _)) h (Item.tables_of_run_none h)]

/-- The tables that have been declared when a module is left, be it at a statement that fails. -/
theorem tables_of_runItems (n : Namespace) (tables : TableNames) (items : List Item) :
    (runItems n tables items).2 = tables ++ tablesOf (executed n tables items) := by
  induction items generalizing n tables with
  | nil => simp [runItems, executed]
  | cons i items ih =>
      cases hi : (i.run n tables).1 with
      | some n₁ =>
          rw [runItems_cons_of_some hi, executed_cons_of_some hi, ih, tablesOf_cons, List.append_assoc]
      | none => simp [runItems_cons_of_none hi, executed_cons_of_none hi]

/-- **What tables keep a module from going through**: its own. With more tables than before it goes through if it did
before, and declares none of them. -/
theorem runItems_append_eq_some_iff (more tables : TableNames) :
    (runItems n (more ++ tables) items).1 = some n' ↔
      (runItems n tables items).1 = some n' ∧ ∀ t ∈ tablesOf items, t ∉ more := by
  induction items generalizing n tables with
  | nil => simp [runItems]
  | cons i items ih =>
      have hown : (∀ t ∈ tablesOf (i :: items), t ∉ more) ↔
          (∀ t, i.table? = some t → t ∉ more) ∧ ∀ t ∈ tablesOf items, t ∉ more := by
        simp [tablesOf_cons, or_imp, forall_and]
      cases hi : (i.run n tables).1 with
      | none =>
          have hi' : (i.run n (more ++ tables)).1 = none := Item.run_eq_none_of_subset hi (by simp)
          simp [runItems_cons_of_none hi, runItems_cons_of_none hi']
      | some n₁ =>
          obtain ⟨hbinds, hnew⟩ := Item.run_eq_some_iff.mp hi
          by_cases hmore : ∀ t, i.table? = some t → t ∉ more
          · have hi' : (i.run n (more ++ tables)).1 = some n₁ :=
              Item.run_eq_some_iff.mpr ⟨hbinds, fun t ht => by simp [hmore t ht, hnew t ht]⟩
            rw [runItems_cons_of_some hi, runItems_cons_of_some hi', List.append_assoc, ih, hown]
            exact and_congr_right fun _ => (and_iff_right hmore).symm
          · have hi' : (i.run n (more ++ tables)).1 = none := by
              rw [Option.eq_none_iff_forall_ne_some]
              intro n₂ h
              exact hmore fun t ht hthere => (Item.run_eq_some_iff.mp h).2 t ht (List.mem_append_left _ hthere)
            rw [runItems_cons_of_none hi', hown]
            simp [hmore]

theorem runItems_eq_some_iff :
    (runItems n tables items).1 = some n' ↔ (runItems n [] items).1 = some n' ∧ ∀ t ∈ tablesOf items, t ∉ tables := by
  simpa using runItems_append_eq_some_iff tables []

/-- **A module that has failed fails again**, since the tables that it has declared are there, and this time it declares
nothing. -/
theorem runItems_again (h : (runItems n tables items).1 = none) (hthere : (runItems n tables items).2 ⊆ tables') :
    runItems n tables' items = (none, tables') := by
  induction items generalizing n tables with
  | nil => cases h
  | cons i items ih =>
      cases hi : (i.run n tables).1 with
      | none =>
          rw [runItems_cons_of_none hi] at hthere
          exact runItems_cons_of_none (Item.run_eq_none_of_subset hi hthere) items
      | some n₁ =>
          rw [runItems_cons_of_some hi] at h hthere
          cases ht : i.table? with
          | none =>
              have hi' : (i.run n tables').1 = some n₁ :=
                Item.run_eq_some_iff.mpr ⟨(Item.run_eq_some_iff.mp hi).1, by simp [ht]⟩
              rw [runItems_cons_of_some hi', ht, Option.toList_none, List.append_nil]
              exact ih h hthere
          | some t =>
              have hdeclared : t ∈ tables' := hthere (subset_runItems _ _ _ (by simp [ht]))
              refine runItems_cons_of_none ?_ items
              rw [Option.eq_none_iff_forall_ne_some]
              exact fun n₂ h₂ => (Item.run_eq_some_iff.mp h₂).2 t ht hdeclared

end SqlMapper.Discovery
