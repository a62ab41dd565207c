import SqlMapper.Proofs.Registry.Answers
/-!
# SqlMapper.Proofs.Registry.Agreement

All who ask a registry for one statement, and are neither cancelled nor late, are told the same
(`resolve_agreement`): those who were woken by the end of a load, and those who asked afterwards and were
answered at once, in whichever loop.

What they are told is what one version of the document comes to (`Consistent.exists_version`), however
often it is edited in between.
-/

namespace SqlMapper.Mapper.Registry

/-! ### The version of the document -/

theorem Move.loading {r r' : Registry} {act : Action} (m : Move r act r') :
    r'.loading = r.loading ∨ act = .edit r'.loading := by
  cases m with
  | edit loading => exact Or.inr rfl
  | rest | schedule | join | demand | reply | enter | reach | finish | halt | drop | settle
  | nextLoop => exact Or.inl rfl

theorem Move.path {r r' : Registry} {act : Action} (m : Move r act r') : r'.path = r.path := by
  cases m <;> rfl

theorem Move.phase {r r' : Registry} {act : Action} (m : Move r act r') :
    r'.phase = r.phase ∨ r'.phase = .ofResult r.loading.result := by
  cases m with
  | finish => exact Or.inr rfl
  | rest | schedule | join | demand | reply | enter | reach | edit | halt | drop | settle
  | nextLoop => exact Or.inl rfl

theorem run_path (r : Registry) (as : List Action) : (r.run as).path = r.path :=
  run_keeps (P := fun s => s.path = r.path) (fun hs m => m.path.trans hs) rfl as

/-- What becomes known of a document in a run is what a version of it comes to, either the one at the
beginning or one that it was edited to. -/
theorem Consistent.exists_version {r : Registry} (h : r.Consistent)
    (unknown : r.phase = .uninitialized) (as : List Action) :
    ∃ built, (built = r.loading ∨ .edit built ∈ as) ∧
      ((r.run as).phase = .uninitialized ∨ (r.run as).phase = .ofResult built.result) := by
  induction as generalizing r with
  | nil => exact ⟨r.loading, Or.inl rfl, Or.inl unknown⟩
  | cons a as ih =>
      have m := r.apply_move a
      rw [run_cons]
      -- the first move after which something is known settles it, with the version at that time
      rcases m.phase with same | known
      · obtain ⟨built, hbuilt, hphase⟩ := ih (h.move m) (same.trans unknown)
        refine ⟨built, ?_, hphase⟩
        rcases hbuilt with rfl | hedit
        · rcases m.loading with hl | hl
          · exact Or.inl hl
          · exact Or.inr (List.mem_cons.mpr (Or.inl hl.symm))
        · exact Or.inr (List.mem_cons_of_mem a hedit)
      · refine ⟨r.loading, Or.inl rfl, Or.inr ?_⟩
        have hknown : (r.apply a).phase ≠ .uninitialized := by
          rw [known]
          exact Phase.ofResult_ne_uninitialized _
        exact ((h.move m).run_of_known hknown as).1.trans known

/-! ### Agreement -/

/-- Somebody who asks in the course of a run is given an answer. -/
def Answered (r : Registry) (as : List Action) (q : Request) (a : Answer) : Prop :=
  ∃ sofar, sofar <+: as ∧ ∃ w ∈ (r.run sofar).waiters, w.request = q ∧ w.answer? = some a

/-- What is to be said about a statement if the document of a path, if there is one, comes to a
result. -/
def verdict (path : Option String) (result : Except DocumentError Table) (name : String) : Answer :=
  match path, result with
  | none, _ => .refused .noTemplate
  | some path, .error e => .refused (.loadFailed path e)
  | some _, .ok table =>
    match table.get? (.str name) with
    | some s => .statement s
    | none => .refused (.unknownStatement name)

/-- A registry has a document that has not been loaded, or none. -/
theorem new_cases (template : Option String) (limit : Option Limit) (loading : String → Loading)
    (reachable : Bool) :
    let r := Registry.new template limit loading reachable
    (r.phase = .uninitialized ∧ ∃ path, r.path = some path) ∨
      (r.phase = .unavailable ∧ r.path = none) := by
  intro r
  unfold r Registry.new
  split
  case h_1 => exact Or.inr ⟨rfl, rfl⟩
  case h_2 => exact Or.inr ⟨rfl, rfl⟩
  case h_3 t _ => exact Or.inl ⟨rfl, Path.normal t, rfl⟩

theorem answer_congr {r s : Registry} (hphase : r.phase = s.phase) (hpath : r.path = s.path)
    (q : Request) : r.answer q = s.answer q := by
  unfold answer shownPath
  rw [hphase, hpath]

/-- What a registry says that knows what its document comes to. -/
theorem answer_of_ofResult {r : Registry} {path : String} {result : Except DocumentError Table}
    (hpath : r.path = some path) (hphase : r.phase = .ofResult result) (name : String) :
    r.answer (.statement name) = verdict (some path) result name := by
  unfold answer
  cases result with
  | ok table =>
      rw [hphase]
      rfl
  | error e =>
      rw [hphase]
      unfold shownPath
      rw [hpath]
      rfl

/-- What is said in the course of a run, the registry says at its end. -/
theorem Consistent.answered_eq {r : Registry} (h : r.Consistent) (ht : r.Truthful)
    {as : List Action} {q : Request} {a : Answer} (ha : r.Answered as q a)
    (hverdict : a.isVerdict = true) :
    (r.run as).phase ≠ .uninitialized ∧ a = (r.run as).answer q := by
  obtain ⟨sofar, ⟨rest, hrest⟩, w, hw, hq, hwa⟩ := ha
  have hwaiting : w.waiting = .answered a := by
    unfold Waiter.answer? at hwa
    split at hwa
    case h_1 => cases hwa
    case h_2 b hb =>
        cases hwa
        exact hb
  obtain ⟨known, hanswer⟩ := h.run_truthful ht sofar w hw a hwaiting hverdict
  have hrun : r.run as = (r.run sofar).run rest := by
    rw [← hrest, run_append]
  have stays := ((h.run sofar).run_of_known known rest).1
  refine ⟨?_, ?_⟩
  · rw [hrun, stays]
    exact known
  · rw [hrun, hanswer, hq]
    exact answer_congr stays.symm (run_path _ rest).symm q

/-- At the end of a run that has made something known, a registry gives the verdict on one version of its
document. -/
theorem exists_verdict (template : Option String) (limit : Option Limit)
    (loading : String → Loading) (reachable : Bool) (as : List Action) :
    let r := Registry.new template limit loading reachable
    ∃ built, (built = r.loading ∨ .edit built ∈ as) ∧
      ((r.run as).phase ≠ .uninitialized →
        ∀ name, (r.run as).answer (.statement name) = verdict r.path built.result name) := by
  intro r
  have h : r.Consistent := .new template limit loading reachable
  rcases new_cases template limit loading reachable with ⟨unknown, path, hpath⟩ | ⟨absent, hpath⟩
  · obtain ⟨built, hbuilt, hphase⟩ := h.exists_version unknown as
    refine ⟨built, hbuilt, fun known name => ?_⟩
    have hend := (run_path r as).trans hpath
    rw [answer_of_ofResult hend (hphase.resolve_left known), ← hpath]
  · -- without a document there is nothing to load, and the version does not matter
    refine ⟨r.loading, Or.inl rfl, fun _ name => ?_⟩
    have hphase := (h.run_of_known (by rw [absent]; simp) as).1.trans absent
    rw [hpath]
    unfold answer
    rw [hphase]
    rfl

/-- A waiter that has been added is found. -/
theorem waiter?_addWaiter (r : Registry) (w : Waiter) : (r.addWaiter w).waiter? w.id = some w := by
  have gone : (r.waiters.filter (·.id ≠ w.id)).find? (·.id = w.id) = none := by
    rw [List.find?_eq_none]
    intro v hv hid
    have hne := (List.mem_filter.mp hv).2
    exact of_decide_eq_true hne (of_decide_eq_true hid)
  show (r.waiters.filter (·.id ≠ w.id) ++ [w]).find? (·.id = w.id) = some w
  rw [List.find?_append, gone]
  simp

/-- Who asks when something is known is told it at once. -/
theorem answerOf?_ask_of_known {r : Registry} (known : r.phase ≠ .uninitialized) (id : WaiterId)
    (q : Request) : (r.apply (.ask id q)).answerOf? id = some (r.answer q) := by
  have closed : ¬ r.phase.isOpen = true := fun ho => known (isOpen_iff.mp ho)
  have hask : r.apply (.ask id q) =
      r.addWaiter { id, request := q, waiting := .answered (r.answer q) } := if_neg closed
  unfold answerOf?
  rw [hask, waiter?_addWaiter r { id, request := q, waiting := .answered (r.answer q) }]
  rfl

/-- **Agreement.** All who ask for one statement in the course of a run, and are told something about the
document, are told the same. What they are told is the verdict on one version of the document, the one
at the beginning or one that it was edited to: its statement of that name, that there is none, that
loading it failed and why, or that there is no document. Who asks after the run, when something is known,
is told that too, and at once. A version that was read from a file comes to the table that its entries
build. -/
theorem resolve_agreement (template : Option String) (limit : Option Limit)
    (loading : String → Loading) (reachable : Bool) (as : List Action) :
    let r := Registry.new template limit loading reachable
    (∀ name a b, r.Answered as (.statement name) a → r.Answered as (.statement name) b →
      a.isVerdict = true → b.isVerdict = true → a = b) ∧
      ∃ built, (built = r.loading ∨ .edit built ∈ as) ∧
        (∀ name a, r.Answered as (.statement name) a → a.isVerdict = true →
          a = verdict r.path built.result name) ∧
        ((r.run as).phase ≠ .uninitialized → ∀ id name,
          ((r.run as).apply (.ask id (.statement name))).answerOf? id =
            some (verdict r.path built.result name)) ∧
        ∀ setting path bytes d, built = .ofFile setting path bytes →
          bytes.bind Document.read? = some d →
            built.result = (Table.ofDocument setting d).2 := by
  intro r
  have h : r.Consistent := .new template limit loading reachable
  have ht : r.Truthful := .new template limit loading reachable
  obtain ⟨built, hbuilt, atEnd⟩ := exists_verdict template limit loading reachable as
  refine ⟨?_, built, hbuilt, ?_, ?_, ?_⟩
  · intro name a b ha hb hav hbv
    rw [(h.answered_eq ht ha hav).2, (h.answered_eq ht hb hbv).2]
  · intro name a ha hav
    obtain ⟨known, heq⟩ := h.answered_eq ht ha hav
    rw [heq]
    exact atEnd known name
  · intro known id name
    rw [answerOf?_ask_of_known known]
    exact congrArg some (atEnd known name)
  · rintro setting path bytes d rfl hd
    exact Loading.ofFile_result hd

end SqlMapper.Mapper.Registry
