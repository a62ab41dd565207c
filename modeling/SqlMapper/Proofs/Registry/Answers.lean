import Mathlib.Data.List.Nodup
import SqlMapper.Proofs.Registry.Invariant
/-!
# SqlMapper.Proofs.Registry.Answers

What waiters were told. An answer that speaks of the document (`Answer.isVerdict`), and not only of the
wait for it, is what the registry still says (`Truthful`): it was given when something was known of the
document, and what is known stays.
-/

namespace SqlMapper.Mapper

/-- Does an answer speak of the document, and not only of the wait for it? -/
def Answer.isVerdict : Answer → Bool
  | .cancelled | .refused (.notReady ..) => false
  | _ => true

namespace Registry

/-- Every answer that was given is what the registry says now. -/
def Truthful (r : Registry) : Prop :=
  ∀ w ∈ r.waiters, ∀ a, w.waiting = .answered a → a.isVerdict = true →
    r.phase ≠ .uninitialized ∧ a = r.answer w.request

/-- Waiters are told apart by their ids. -/
theorem Consistent.eq_of_waiter? {r : Registry} (h : r.Consistent) {id : WaiterId} {v w : Waiter}
    (found : r.waiter? id = some w) (hv : v ∈ r.waiters) (hid : v.id = id) : v = w := by
  obtain ⟨hw, hwid⟩ := mem_of_waiter? found
  exact List.inj_on_of_nodup_map h.waiterIds_nodup hv hw (hid.trans hwid.symm)

/-- A new waiter that waits, or is told what the registry says, spoils nothing. -/
theorem Truthful.addWaiter {r : Registry} (h : r.Truthful) {w : Waiter}
    (hw : ∀ a, w.waiting = .answered a → r.phase ≠ .uninitialized ∧ a = r.answer w.request) :
    (r.addWaiter w).Truthful := by
  intro v hv a ha hverdict
  rcases List.mem_append.mp hv with hv | hv
  · exact h v (List.mem_filter.mp hv).1 a ha hverdict
  · rw [List.mem_singleton.mp hv] at ha ⊢
    exact hw a ha

/-- A waiter may be told what is due to it. -/
theorem Truthful.settleWaiter {r : Registry} (hc : r.Consistent) (h : r.Truthful) {id : WaiterId}
    {a : Answer} (due : r.Due id a) : (r.settleWaiter id a).Truthful := by
  intro v hv b hb hverdict
  obtain ⟨w, hw, rfl⟩ := List.mem_map.mp hv
  split at hb
  case isTrue hid =>
      cases hb
      rw [if_pos hid]
      cases due with
      | cancelled => cases hverdict
      | late => cases hverdict
      | known found blocked load ended =>
          have known := hc.phase_of_ended _ _ load ended
          rw [← hc.eq_of_waiter? found hw hid.1]
          exact ⟨known, rfl⟩
  case isFalse hid =>
      rw [if_neg hid]
      exact h w hw b hb hverdict

theorem Truthful.move {r r' : Registry} {act : Action} (hc : r.Consistent) (h : r.Truthful)
    (m : Move r act r') : r'.Truthful := by
  cases m with
  | join id q | demand id q =>
      refine Truthful.addWaiter h fun a ha => ?_
      cases ha
  | reply id q known =>
      refine Truthful.addWaiter h fun a ha => ?_
      cases ha
      exact ⟨known, rfl⟩
  | finish load pending begun reachable =>
      -- so far nothing was known, so no such answer has been given
      intro w hw a ha hverdict
      have unknown := hc.phase_of_running _ _ load (isOver_of_pending pending)
      exact absurd unknown (h w hw a ha hverdict).1
  | settle id told due => exact h.settleWaiter hc due
  | nextLoop =>
      intro w hw
      cases hw
  | rest | schedule | enter | reach | edit | halt | drop => exact h

theorem Truthful.new (template : Option String) (limit : Option Limit)
    (loading : String → Loading) (reachable : Bool) :
    (Registry.new template limit loading reachable).Truthful := by
  intro w hw
  unfold Registry.new at hw
  split at hw <;> cases hw

theorem Consistent.run_truthful {r : Registry} (h : r.Consistent) (ht : r.Truthful)
    (as : List Action) : (r.run as).Truthful :=
  h.run_keeps (fun hs hp m => hp.move hs m) ht as

end Registry
end SqlMapper.Mapper
