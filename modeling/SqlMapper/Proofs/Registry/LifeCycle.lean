import SqlMapper.Proofs.Registry.Invariant
/-!
# SqlMapper.Proofs.Registry.LifeCycle

What becomes of a document in the course of a run (`Phase.Becomes`): only one that has not been loaded
becomes anything else, namely ready or failed, and it does so once. With it the table, the cause of a
failure and the report of it in the log are settled for good.

The report is counted, not just looked for: a second load that failed would log a second one. That there
is none follows from the invariant, since a load that ends finds nothing known of the document.
-/

namespace SqlMapper.Mapper

/-- What can become of a document. -/
inductive Phase.Becomes : Phase → Phase → Prop
  | stays (p : Phase) : Becomes p p
  | ready (t : Table) : Becomes .uninitialized (.ready t)
  | failed (e : DocumentError) : Becomes .uninitialized (.failed e)

namespace Phase

theorem Becomes.trans {p q s : Phase} (h : p.Becomes q) (k : q.Becomes s) : p.Becomes s := by
  cases h with
  | stays => exact k
  | ready t =>
      cases k with
      | stays => exact .ready t
  | failed e =>
      cases k with
      | stays => exact .failed e

/-- What is known of a document stays. -/
theorem Becomes.eq_of_known {p q : Phase} (h : p.Becomes q) (known : p ≠ .uninitialized) : q = p := by
  cases h with
  | stays => rfl
  | ready | failed => exact absurd rfl known

theorem Becomes.unavailable_iff {p q : Phase} (h : p.Becomes q) :
    q = .unavailable ↔ p = .unavailable := by
  cases h with
  | stays => exact Iff.rfl
  | ready | failed => exact ⟨nofun, nofun⟩

theorem becomes_ofResult (result : Except DocumentError Table) :
    Becomes .uninitialized (.ofResult result) := by
  cases result with
  | ok t => exact .ready t
  | error e => exact .failed e

theorem cause?_eq_some {p : Phase} {e : DocumentError} : p.cause? = some e ↔ p = .failed e := by
  cases p <;> simp [cause?]

theorem table_ne_nil {p : Phase} (h : p.table ≠ []) : p = .ready p.table := by
  cases p <;> simp_all [table]

end Phase

namespace Registry

/-! ### Phases -/

theorem Consistent.becomes {r r' : Registry} {a : Action} (h : r.Consistent) (m : Move r a r') :
    r.phase.Becomes r'.phase := by
  cases m with
  | finish load pending begun reachable =>
      rw [h.phase_of_running _ _ load (isOver_of_pending pending)]
      exact Phase.becomes_ofResult _
  | rest | schedule | join | demand | reply | enter | reach | edit | halt | drop | settle | nextLoop =>
      exact .stays _

/-- In a run a document becomes what it can become. -/
theorem Consistent.run_becomes {r : Registry} (h : r.Consistent) (as : List Action) :
    r.phase.Becomes (r.run as).phase := by
  refine h.run_keeps (P := fun s => r.phase.Becomes s.phase) ?_ (.stays _) as
  intro s s' a hs hp m
  exact hp.trans (hs.becomes m)

/-! ### The report of a failure -/

/-- Is an event the report that a load has failed? -/
def reportsFailure : Event → Bool
  | .loadFailed _ => true
  | _ => false

/-- How often it has been reported that a load has failed. -/
def failureReports (r : Registry) : Nat := r.events.countP reportsFailure

/-- A failure is reported once, and nothing else is reported as one. -/
def Reported (r : Registry) : Prop := r.failureReports = if r.phase.cause?.isSome then 1 else 0

theorem countP_reportsFailure_loading (l : Loading) : l.events.countP reportsFailure = 0 := by
  rw [List.countP_eq_zero]
  intro e he hr
  cases e with
  | loadFailed path => exact l.loadFailed_not_mem path he
  | unknownType | loaded | executed | paged | moduleFailed | discovered => cases hr

/-- A load that ends reports that it has failed, if it has. -/
theorem countP_endEvents (r : Registry) : r.endEvents.countP reportsFailure =
    if (Phase.ofResult r.loading.result).cause?.isSome then 1 else 0 := by
  unfold endEvents
  cases r.loading.result with
  | ok t =>
      rw [countP_reportsFailure_loading]
      rfl
  | error e =>
      rw [List.countP_append, countP_reportsFailure_loading]
      rfl

theorem Consistent.reported {r r' : Registry} {a : Action} (h : r.Consistent) (hr : r.Reported)
    (m : Move r a r') : r'.Reported := by
  cases m with
  | @finish i l load pending begun reachable =>
      -- nothing was known before, so nothing had been reported
      have nothing : r.failureReports = 0 := by
        rw [hr, h.phase_of_running _ _ load (isOver_of_pending pending)]
        rfl
      have hevents : (r.finish i l).events = r.events ++ r.endEvents := rfl
      unfold Reported failureReports
      rw [hevents, List.countP_append, ← failureReports, nothing, Nat.zero_add, countP_endEvents]
      rfl
  | rest | schedule | join | demand | reply | enter | reach | edit | halt | drop | settle | nextLoop =>
      exact hr

theorem Consistent.run_reported {r : Registry} (h : r.Consistent) (hr : r.Reported)
    (as : List Action) : (r.run as).Reported :=
  h.run_keeps (fun hs hp m => hs.reported hp m) hr as

/-! ### The life of a registry -/

theorem new_phase (template : Option String) (limit : Option Limit) (loading : String → Loading)
    (reachable : Bool) : (Registry.new template limit loading reachable).phase =
      if template = none ∨ template = some "" then .unavailable else .uninitialized := by
  unfold Registry.new
  split
  case h_1 => rfl
  case h_2 => rfl
  case h_3 t h =>
      rw [if_neg]
      rintro (ht | ht)
      · cases ht
      · exact h (Option.some.inj ht)

theorem new_reported (template : Option String) (limit : Option Limit)
    (loading : String → Loading) (reachable : Bool) :
    (Registry.new template limit loading reachable).Reported := by
  unfold Registry.new
  split <;> rfl

/-- **Life cycle.** Let a registry be as it is after any run, and as it is later on. It has no document
if none was named, then and later. A document that has not been loaded is still that, ready or failed;
one that is ready or failed remains so, with the same table and with the same cause. There are statements
only if it is ready, and there is a cause exactly if it has failed; then the failure has been reported
once, and otherwise never. -/
theorem life_cycle (template : Option String) (limit : Option Limit) (loading : String → Loading)
    (reachable : Bool) (as later : List Action) :
    let r := (Registry.new template limit loading reachable).run as
    let r' := r.run later
    (r.phase = .unavailable ↔ template = none ∨ template = some "") ∧
      (r'.phase = .unavailable ↔ r.phase = .unavailable) ∧
      (r.phase = .uninitialized → r'.phase = .uninitialized ∨
        (∃ t, r'.phase = .ready t) ∨ ∃ e, r'.phase = .failed e) ∧
      (∀ t, r.phase = .ready t → r'.phase = .ready t) ∧
      (∀ e, r.phase = .failed e → r'.phase = .failed e) ∧
      (r.phase.table ≠ [] → r.phase = .ready r.phase.table) ∧
      (∀ e, r.phase.cause? = some e ↔ r.phase = .failed e) ∧
      r.failureReports = if r.phase.cause?.isSome then 1 else 0 := by
  intro r r'
  have hnew := Consistent.new template limit loading reachable
  have h : r.Consistent := hnew.run as
  have first := hnew.run_becomes as
  have after : r.phase.Becomes r'.phase := h.run_becomes later
  refine ⟨?_, after.unavailable_iff, ?_, ?_, ?_, Phase.table_ne_nil, fun e => Phase.cause?_eq_some,
    hnew.run_reported (new_reported ..) as⟩
  · rw [first.unavailable_iff, new_phase]
    split
    case isTrue hn => exact ⟨fun _ => hn, fun _ => rfl⟩
    case isFalse hn => exact ⟨nofun, fun ht => absurd ht hn⟩
  · intro hp
    rw [hp] at after
    cases hq : r'.phase with
    | uninitialized => exact Or.inl rfl
    | ready t => exact Or.inr (Or.inl ⟨t, rfl⟩)
    | failed e => exact Or.inr (Or.inr ⟨e, rfl⟩)
    | unavailable =>
        rw [hq] at after
        cases after
  · intro t hp
    rw [after.eq_of_known (by rw [hp]; simp), hp]
  · intro e hp
    rw [after.eq_of_known (by rw [hp]; simp), hp]

end Registry
end SqlMapper.Mapper
