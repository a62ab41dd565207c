import SqlMapper.Proofs.Registry.Answers
import SqlMapper.Proofs.Registry.Settling
/-!
# SqlMapper.Proofs.Registry.WakeUp

No waiter waits in vain (`no_lost_wakeup`). A waiter whose load is over has something to notice, so once
nothing happens of itself any more, every waiter that still waits does so for a load that runs; and that
load waits for a document that cannot be had.
-/

namespace SqlMapper.Mapper.Registry

/-- Somebody waits for a load. -/
def Awaited (r : Registry) (i : Nat) : Prop := ∃ w ∈ r.waiters, w.waiting = .blocked i

/-- A waiter is found by its id. -/
theorem Consistent.waiter?_of_mem {r : Registry} (h : r.Consistent) {w : Waiter}
    (hw : w ∈ r.waiters) : r.waiter? w.id = some w := by
  cases hv : r.waiter? w.id with
  | none =>
      have hne := List.find?_eq_none.mp hv w hw
      simp at hne
  | some v => rw [h.eq_of_waiter? hv hw rfl]

/-- In a calm registry no waiter waits for a load that is over. -/
theorem Consistent.not_isOver_of_calm {r : Registry} (h : r.Consistent) (calm : r.Calm) {w : Waiter}
    (hw : w ∈ r.waiters) {i : Nat} (hb : w.waiting = .blocked i) {l : Load}
    (hi : r.loads[i]? = some l) : l.progress.isOver = false := by
  cases hl : l.progress.isOver with
  | false => rfl
  | true =>
      obtain ⟨a, ha⟩ := wakeAnswer?_of_isOver hb hi hl
      -- the waiter would still have to notice that
      have nothing := calm.nothing_to_notice w.id
      rw [h.waiter?_of_mem hw, Option.bind_some, ha] at nothing
      cases nothing

/-- In a calm registry those who wait do so for a load that waits for the document. -/
theorem Consistent.awaited_pending {r : Registry} (h : r.Consistent) (calm : r.Calm) {i : Nat}
    (awaited : r.Awaited i) :
    ∃ l, r.loads[i]? = some l ∧ l.progress = .pending ∧ r.reachable = false := by
  obtain ⟨w, hw, hb⟩ := awaited
  obtain ⟨l, hi⟩ : ∃ l, r.loads[i]? = some l :=
    ⟨_, List.getElem?_eq_getElem (h.blocked w hw i hb)⟩
  have running := h.not_isOver_of_calm calm hw hb hi
  refine ⟨l, hi, ?_⟩
  cases hp : l.progress with
  | pending => exact ⟨rfl, calm.unreachable i _ hi hp⟩
  | stopping => exact absurd hp (calm.not_stopping i _ hi)
  | ended | cancelled =>
      rw [hp] at running
      cases running

/-- A waiter whose load is over gets an answer when it is woken. -/
theorem Consistent.answerOf?_wake {r : Registry} (h : r.Consistent) {w : Waiter}
    (hw : w ∈ r.waiters) {i : Nat} (hb : w.waiting = .blocked i) {l : Load}
    (hi : r.loads[i]? = some l) (hl : l.progress.isOver = true) :
    ∃ a, (r.apply (.wake w.id)).answerOf? w.id = some a := by
  obtain ⟨a, ha⟩ := wakeAnswer?_of_isOver hb hi hl
  have found := h.waiter?_of_mem hw
  refine ⟨a, ?_⟩
  simp only [apply, found, Option.bind_some, ha]
  exact answerOf?_settleWaiter found hb a

/-- A waiter of a load that fails is told why. -/
example (limit : Option Limit) (e : DocumentError) :
    let r : Registry :=
      { path := some "a.xml", limit, loading := .silent (.error e), reachable := true,
        phase := .uninitialized }
    (r.run [.ask .caller .table, .enter 0, .finish 0, .wake .caller]).answerOf? .caller =
      some (.refused (.loadFailed "a.xml" e)) := by
  cbv

theorem answer_ne_notLoaded {r : Registry} (known : r.phase ≠ .uninitialized) (q : Request)
    (path : String) : r.answer q ≠ .refused (.notLoaded path) := by
  unfold answer
  cases hp : r.phase with
  | uninitialized => exact absurd hp known
  | unavailable | failed e => simp
  | ready t =>
      cases q with
      | table => simp [answerFrom]
      | statement name =>
          simp only [answerFrom]
          split <;> simp

/-- Nobody is told that the document has not been loaded. -/
theorem Truthful.answer?_ne_notLoaded {r : Registry} (h : r.Truthful) {w : Waiter}
    (hw : w ∈ r.waiters) (path : String) : w.answer? ≠ some (.refused (.notLoaded path)) := by
  unfold Waiter.answer?
  cases hwaiting : w.waiting with
  | blocked i => simp
  | answered a =>
      intro told
      cases told
      -- such an answer would speak of the document, and then something would be known of it
      obtain ⟨known, heq⟩ := h w hw _ hwaiting rfl
      exact answer_ne_notLoaded known w.request path heq.symm

/-- **No lost wake-up.** After any run of a registry, if nothing happens of itself any more, those who
wait do so for the load that is under way in the running loop, nothing is known of the document yet, and
the document cannot be had. So nobody waits for a load that is over, and nobody waits once something is
known. In any state at all, a waiter whose load is over gets an answer by being woken; something is known
once a load has ended, and no waiter has been told that the document has not been loaded. What happens of
itself comes to an end, in whatever order it happens. -/
theorem no_lost_wakeup (template : Option String) (limit : Option Limit)
    (loading : String → Loading) (reachable : Bool) (as : List Action) :
    let r := (Registry.new template limit loading reachable).run as
    (r.Quiescent → ∀ i, r.Awaited i → r.phase = .uninitialized ∧ r.current = some i ∧
        r.isUnderWay i = true ∧ r.reachable = false) ∧
      (r.Quiescent → ∀ (i : Nat) (l : Load), r.loads[i]? = some l → l.progress.isOver = true →
        ¬ r.Awaited i) ∧
      (r.Quiescent → r.phase ≠ .uninitialized → ∀ i, ¬ r.Awaited i) ∧
      (∀ w ∈ r.waiters, ∀ (i : Nat) (l : Load), w.waiting = .blocked i → r.loads[i]? = some l →
        l.progress.isOver = true → ∃ a, (r.apply (.wake w.id)).answerOf? w.id = some a) ∧
      (∀ (i : Nat) (l : Load), r.loads[i]? = some l → l.progress = .ended → r.phase ≠ .uninitialized) ∧
      (∀ w ∈ r.waiters, ∀ path, w.answer? ≠ some (.refused (.notLoaded path))) ∧
      r.settle.Quiescent ∧
      ∀ bs, r.Busy bs → bs.length ≤ r.work := by
  intro r
  have hnew := Consistent.new template limit loading reachable
  have h : r.Consistent := hnew.run as
  have truthful : r.Truthful := hnew.run_truthful (.new template limit loading reachable) as
  have subscribed : r.Quiescent → ∀ i, r.Awaited i → r.phase = .uninitialized ∧
      r.current = some i ∧ r.isUnderWay i = true ∧ r.reachable = false := by
    intro quiescent i awaited
    obtain ⟨l, hi, hp, hr⟩ := h.awaited_pending quiescent.calm awaited
    have running := isOver_of_pending hp
    obtain ⟨hc, hu⟩ := h.isUnderWay hi running
    exact ⟨h.phase_of_running i l hi running, hc, hu, hr⟩
  refine ⟨subscribed, ?_, ?_, ?_, h.phase_of_ended, ?_, r.settle_quiescent, ?_⟩
  · rintro quiescent i l hi hl ⟨w, hw, hb⟩
    rw [h.not_isOver_of_calm quiescent.calm hw hb hi] at hl
    cases hl
  · intro quiescent known i awaited
    exact known (subscribed quiescent i awaited).1
  · intro w hw i l hb hi hl
    exact h.answerOf?_wake hw hb hi hl
  · intro w hw path
    exact truthful.answer?_ne_notLoaded hw path
  · intro bs busy
    have bound := busy.length_le
    omega

end SqlMapper.Mapper.Registry
