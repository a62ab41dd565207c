import SqlMapper.Proofs.Registry.Invariant
/-!
# SqlMapper.Proofs.Registry.SingleFlight

A document is loaded by one load at a time. A load is in flight from the moment it is scheduled until it
has ended or been cancelled. A new one is scheduled only while nothing is known of the document and none
is in flight; so of all loads at most one has not been cancelled (`length_loads_le`), and once something
is known there are no further loads at all (`Consistent.run_of_known`).
-/

namespace SqlMapper.Mapper.Registry

/-- The number of loads in flight. -/
def loadsInFlight (r : Registry) : Nat := r.loads.countP fun l => !l.progress.isOver

/-- The number of loads that have been cancelled. -/
def loadsCancelled (r : Registry) : Nat := r.loads.countP fun l => l.progress = .cancelled

/-- The number of loads that have been cancelled after their first step. -/
def loadsInterrupted (r : Registry) : Nat :=
  r.loads.countP fun l => l.begun && decide (l.progress = .cancelled)

/-! ### Counting -/

/-- A property that holds at one place at most is counted once at most. -/
theorem countP_le_one {α : Type} {p : α → Bool} : ∀ {xs : List α},
    (∀ (i j : Nat) (x y : α), xs[i]? = some x → xs[j]? = some y → p x = true → p y = true → i = j) →
      xs.countP p ≤ 1
  | [], _ => by simp
  | x :: xs, h => by
      rw [List.countP_cons]
      by_cases hx : p x = true
      · have none_behind : xs.countP p = 0 := by
          rw [List.countP_eq_zero]
          intro y hy hpy
          obtain ⟨j, hj⟩ := List.mem_iff_getElem?.mp hy
          have := h 0 (j + 1) x y rfl hj hx hpy
          omega
        exact Nat.le_of_eq (by rw [none_behind, if_pos hx])
      · -- the places behind the first are one less there
        have behind : xs.countP p ≤ 1 := by
          refine countP_le_one fun i j y z hy hz hpy hpz => ?_
          have := h (i + 1) (j + 1) y z hy hz hpy hpz
          omega
        rw [if_neg hx]
        exact behind

theorem countP_le_add {α : Type} (p q : α → Bool) (xs : List α) :
    xs.countP p ≤ xs.countP (fun x => p x && q x) + xs.countP (fun x => !q x) := by
  induction xs with
  | nil => simp
  | cons x xs ih =>
      simp only [List.countP_cons]
      cases q x with
      | true =>
          simp only [Bool.and_true]
          omega
      | false =>
          simp only [Bool.not_false, if_true]
          split <;> omega

/-- At most one load has not been cancelled. -/
theorem Consistent.countP_not_cancelled_le {r : Registry} (h : r.Consistent) :
    r.loads.countP (fun l => !decide (l.progress = .cancelled)) ≤ 1 :=
  countP_le_one fun _ _ _ _ hi hj hk hl =>
    h.eq_of_ne_cancelled hi (by simpa using hk) hj (by simpa using hl)

theorem Consistent.loadsInFlight_le {r : Registry} (h : r.Consistent) : r.loadsInFlight ≤ 1 := by
  refine Nat.le_trans (List.countP_mono_left fun l _ hl => ?_) h.countP_not_cancelled_le
  have hne := ne_cancelled_of_running (p := l.progress) (by simpa using hl)
  simp [hne]

theorem Consistent.loadsInFlight_eq_zero {r : Registry} (h : r.Consistent) (need : r.NeedsLoad) :
    r.loadsInFlight = 0 := by
  unfold loadsInFlight
  rw [List.countP_eq_zero]
  intro l hl
  obtain ⟨i, hi⟩ := List.mem_iff_getElem?.mp hl
  rw [h.all_cancelled need hi]
  simp [Progress.isOver]

/-- All loads but one have been cancelled. -/
theorem Consistent.length_loads_le {r : Registry} (h : r.Consistent) :
    r.loads.length ≤ r.loadsCancelled + 1 := by
  have hsplit := countP_le_add (fun _ => true) (fun l => decide (l.progress = .cancelled)) r.loads
  have hrest := h.countP_not_cancelled_le
  simp only [List.countP_true, Bool.true_and] at hsplit
  unfold loadsCancelled
  omega

/-- All loads but one that have taken their first step have been cancelled since. -/
theorem Consistent.loadsBegun_le {r : Registry} (h : r.Consistent) :
    r.loadsBegun ≤ r.loadsInterrupted + 1 := by
  have hsplit := countP_le_add (·.begun) (fun l => decide (l.progress = .cancelled)) r.loads
  have hrest := h.countP_not_cancelled_le
  unfold loadsBegun loadsInterrupted
  omega

/-! ### Which moves begin a load -/

/-- A load is scheduled only where one is needed. -/
theorem Move.needsLoad {r r' : Registry} {a : Action} (m : Move r a r')
    (more : r.loads.length < r'.loads.length) : r.NeedsLoad := by
  cases m with
  | schedule need | demand _ _ need => exact need
  | rest | join | reply | reach | edit | settle => exact absurd more (Nat.lt_irrefl _)
  | enter | finish | halt | drop =>
      have same := List.length_set ▸ more
      exact absurd same (Nat.lt_irrefl _)
  | nextLoop =>
      have same := List.length_map _ ▸ more
      exact absurd same (Nat.lt_irrefl _)

/-- A load takes its first step only while nothing is known of the document. -/
theorem Consistent.phase_of_loadsBegun_lt {r r' : Registry} {a : Action} (h : r.Consistent)
    (m : Move r a r') (more : r.loadsBegun < r'.loadsBegun) : r.phase = .uninitialized := by
  by_cases known : r.phase = .uninitialized
  · exact known
  · unfold loadsBegun at more
    rw [h.loads_of_known known m] at more
    exact absurd more (Nat.lt_irrefl _)

/-- **Single flight.** After any run of a registry at most one load is in flight. A load is scheduled
only while nothing is known of the document and no load is in flight, and takes its first step only while
nothing is known. So all loads but one have been cancelled, both of those that were scheduled and of those
that took their first step; and once something is known, no load begins any more. -/
theorem single_flight (template : Option String) (limit : Option Limit)
    (loading : String → Loading) (reachable : Bool) (as : List Action) :
    let r := (Registry.new template limit loading reachable).run as
    r.loadsInFlight ≤ 1 ∧
      (∀ a, r.loads.length < (r.apply a).loads.length →
        r.phase = .uninitialized ∧ r.loadsInFlight = 0) ∧
      (∀ a, r.loadsBegun < (r.apply a).loadsBegun → r.phase = .uninitialized) ∧
      r.loads.length ≤ r.loadsCancelled + 1 ∧
      r.loadsBegun ≤ r.loadsInterrupted + 1 ∧
      (r.phase ≠ .uninitialized → ∀ bs, (r.run bs).loads = r.loads) := by
  intro r
  have h : r.Consistent := (Consistent.new template limit loading reachable).run as
  refine ⟨h.loadsInFlight_le, ?_, ?_, h.length_loads_le, h.loadsBegun_le, ?_⟩
  · intro a more
    have need := (r.apply_move a).needsLoad more
    exact ⟨need.1, h.loadsInFlight_eq_zero need⟩
  · intro a more
    exact h.phase_of_loadsBegun_lt (r.apply_move a) more
  · intro known bs
    exact (h.run_of_known known bs).2

end SqlMapper.Mapper.Registry
