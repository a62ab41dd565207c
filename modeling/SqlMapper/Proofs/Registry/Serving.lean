import SqlMapper.Proofs.Registry.Agreement
import SqlMapper.Proofs.Registry.Settling
/-!
# SqlMapper.Proofs.Registry.Serving

A registry whose document is not edited serves what its load comes to (`Serves`), whoever asks and whatever happens to
the loads and the waiters in between. While an answer is waited for, nobody else asks; so the answer is one to what was
asked for (`Serves.obtain`), and a statement that is given as the answer is the one of its name in the table
(`Serves.statement_of_obtain`).
-/

namespace SqlMapper.Mapper

namespace Registry

variable {r r' : Registry} {act : Action} {as : List Action} {q : Request} {loading : Loading}

/-! ### What the caller has asked for -/

/-- If the caller waits, or has an answer, it is for what was asked for. -/
def CallerAsks (r : Registry) (q : Request) : Prop := ∀ w ∈ r.waiters, w.id = .caller → w.request = q

theorem callerAsks_addWaiter (r : Registry) (q : Request) (waiting : Waiting) :
    (r.addWaiter ⟨.caller, q, waiting⟩).CallerAsks q := by
  intro w hw hid
  rcases List.mem_append.mp hw with hw | hw
  · exact absurd hid (by simpa using (List.mem_filter.mp hw).2)
  · rw [List.mem_singleton.mp hw]

theorem callerAsks_ask (r : Registry) (q : Request) : (r.apply (.ask .caller q)).CallerAsks q := by
  change (r.ask .caller q).CallerAsks q
  unfold ask
  split
  · exact callerAsks_addWaiter _ q _
  · exact callerAsks_addWaiter _ q _

/-- Nothing but an ask changes that. -/
theorem CallerAsks.move (h : r.CallerAsks q) (m : Move r act r') (internal : act.isInternal = true) :
    r'.CallerAsks q := by
  cases m with
  | join | demand | reply | edit => cases internal
  | settle id told due =>
      intro w hw hid
      obtain ⟨v, hv, rfl⟩ := List.mem_map.mp hw
      -- a waiter that is told something has asked for the same as before
      by_cases htold : v.id = id ∧ v.load?.isSome = true
      · rw [if_pos htold] at hid ⊢
        exact h v hv hid
      · rw [if_neg htold] at hid ⊢
        exact h v hv hid
  | nextLoop => exact fun w hw => absurd hw List.not_mem_nil
  | rest | schedule | enter | reach | finish | halt | drop => exact h

/-! ### Serving -/

/-- A registry with a document that comes to a given result: nothing else has become known of it. -/
structure Serves (r : Registry) (loading : Loading) : Prop where
  consistent : r.Consistent
  truthful : r.Truthful
  document : r.loading = loading
  known : r.phase = .uninitialized ∨ r.phase = .ofResult loading.result

theorem Serves.new {template : String} (hne : template ≠ "") (limit : Option Limit) (loading : String → Loading)
    (reachable : Bool) :
    (Registry.new (some template) limit loading reachable).Serves (loading (Path.normal template)) where
  consistent := .new _ _ _ _
  truthful := .new _ _ _ _
  document := by rw [new_of_ne hne]
  known := by rw [new_of_ne hne]; exact .inl rfl

/-- No action changes that but an edit. -/
theorem Serves.move (h : r.Serves loading) (m : Move r act r') (unedited : ∀ l, act ≠ .edit l) :
    r'.Serves loading where
  consistent := h.consistent.move m
  truthful := h.truthful.move h.consistent m
  document := (m.loading.resolve_right (unedited _)).trans h.document
  known := by
    rcases m.phase with hphase | hphase
    · rw [hphase]
      exact h.known
    · rw [hphase, h.document]
      exact .inr rfl

theorem unedited_of_isInternal (h : act.isInternal = true) (l : Loading) : act ≠ .edit l := by
  rintro rfl
  cases h

/-- Neither does what happens while an answer is waited for. -/
theorem Serves.run_internal (h : r.Serves loading) (asks : r.CallerAsks q) (internal : ∀ a ∈ as, a.isInternal = true) :
    (r.run as).Serves loading ∧ (r.run as).CallerAsks q := by
  induction as generalizing r with
  | nil => exact ⟨h, asks⟩
  | cons a as ih =>
      obtain ⟨ha, has⟩ := List.forall_mem_cons.mp internal
      have m := r.apply_move a
      exact ih (h.move m (unedited_of_isInternal ha)) (asks.move m ha) has

theorem Serves.obtain (h : r.Serves loading) (q : Request) :
    (r.obtain q).Serves loading ∧ (r.obtain q).CallerAsks q := by
  obtain ⟨as, internal, hobtain⟩ := r.obtain_eq_ask_run q
  rw [hobtain]
  have unedited : ∀ l, Action.ask .caller q ≠ .edit l := fun l hl => by cases hl
  exact (h.move (r.apply_move _) unedited).run_internal (r.callerAsks_ask q) internal

/-- **A statement that is given as an answer is the one of its name in the table.** -/
theorem Serves.statement_of_obtain (h : r.Serves loading) {name : String} {s : Statement}
    (told : (r.obtain (.statement name)).answerOf? .caller = some (.statement s)) :
    ∃ table, loading.result = .ok table ∧ table.get? (.str name) = some s := by
  obtain ⟨serves, asks⟩ := h.obtain (.statement name)
  obtain ⟨w, hw, ha⟩ := Option.bind_eq_some_iff.mp told
  obtain ⟨hmem, hid⟩ := mem_of_waiter? hw
  have hwaiting : w.waiting = .answered (.statement s) := by
    unfold Waiter.answer? at ha
    split at ha
    · cases ha
    · next a ha' =>
      cases ha
      exact ha'
  obtain ⟨known, hanswer⟩ := serves.truthful w hmem _ hwaiting rfl
  rw [asks w hmem hid, answer, serves.known.resolve_left known] at hanswer
  cases hresult : loading.result with
  | error e =>
      rw [hresult] at hanswer
      cases hanswer
  | ok table =>
      rw [hresult] at hanswer
      refine ⟨table, rfl, ?_⟩
      simp only [Phase.ofResult, answerFrom] at hanswer
      cases hfound : table.get? (.str name) with
      | none =>
          rw [hfound] at hanswer
          cases hanswer
      | some s' =>
          rw [hfound] at hanswer
          rw [Answer.statement.inj hanswer]

/-- Who asks a new registry without haste is told what the document says. -/
theorem answerOf?_obtain_new {template : String} (hne : template ≠ "") {limit : Option Limit}
    (patient : ∀ l, limit = some l → l.immediate = false) (loading : String → Loading) (name : String) :
    ((Registry.new (some template) limit loading true).obtain (.statement name)).answerOf? .caller =
      some (verdict (some (Path.normal template)) (loading (Path.normal template)).result name) := by
  rw [new_of_ne hne]
  generalize Path.normal template = path
  obtain ⟨events, result, origin⟩ := loading path
  rw [obtain, request_of_patient patient]
  -- the load is scheduled, begins and ends, and wakes the caller
  cases result <;> rfl

end Registry

end SqlMapper.Mapper
