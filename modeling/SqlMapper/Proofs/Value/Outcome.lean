import Mathlib
import SqlMapper.Value.Failure
/-!
# SqlMapper.Proofs.Value.Outcome

When steps that may fail give a result, and how they fail.
-/

namespace SqlMapper

variable {ε α β : Type}

theorem bind_eq_ok_iff {x : Except ε α} {f : α → Except ε β} {b : β} :
    x >>= f = .ok b ↔ ∃ a, x = .ok a ∧ f a = .ok b := by
  cases x with
  | error e => exact ⟨fun h => (nomatch h), fun ⟨a, ha, _⟩ => (nomatch ha)⟩
  | ok a => exact ⟨fun h => ⟨a, rfl, h⟩, fun ⟨_, ha, h⟩ => (Except.ok.inj ha) ▸ h⟩

theorem map_eq_ok_iff {x : Except ε α} {f : α → β} {b : β} :
    f <$> x = .ok b ↔ ∃ a, x = .ok a ∧ f a = b := by
  rw [map_eq_pure_bind, bind_eq_ok_iff]
  exact exists_congr fun a => and_congr_right fun _ => ⟨Except.ok.inj, congrArg _⟩

theorem mapError_eq_ok_iff {ε' : Type} {x : Except ε α} {f : ε → ε'} {a : α} :
    x.mapError f = .ok a ↔ x = .ok a := by
  cases x <;> simp [Except.mapError]

theorem exceptMap_eq_error_iff {x : Except ε α} {f : α → β} {e : ε} : x.map f = .error e ↔ x = .error e := by
  cases x <;> simp [Except.map]

theorem toOption_eq_some_iff {x : Except ε α} {a : α} : x.toOption = some a ↔ x = .ok a := by
  cases x <;> simp [Except.toOption]

theorem bind_eq_error_iff {x : Except ε α} {f : α → Except ε β} {e : ε} :
    x >>= f = .error e ↔ x = .error e ∨ ∃ a, x = .ok a ∧ f a = .error e := by
  cases x with
  | error e' =>
      refine ⟨fun h => .inl (congrArg _ (Except.error.inj h)), ?_⟩
      rintro (h | ⟨a, ha, -⟩)
      · exact congrArg _ (Except.error.inj h)
      · cases ha
  | ok a =>
      refine ⟨fun h => .inr ⟨a, rfl, h⟩, ?_⟩
      rintro (h | ⟨a', ha, h⟩)
      · cases h
      · exact (Except.ok.inj ha) ▸ h

/-- Where one of several steps fails, the whole fails as it does. -/
theorem exists_of_mapM_eq_error {f : α → Except ε β} {as : List α} {e : ε} (h : as.mapM f = .error e) :
    ∃ a ∈ as, f a = .error e := by
  induction as with
  | nil => cases h
  | cons a as ih =>
      rw [List.mapM_cons, bind_eq_error_iff] at h
      rcases h with h | ⟨b, -, h⟩
      · exact ⟨a, by simp, h⟩
      · rw [bind_eq_error_iff] at h
        rcases h with h | ⟨bs, -, h⟩
        · obtain ⟨a', ha', h⟩ := ih h
          exact ⟨a', List.mem_cons_of_mem a ha', h⟩
        · cases h

/-- Where one of several steps fails, the whole fails, be it that an earlier one has failed before. -/
theorem mapM_eq_error_of_mem {f : α → Except ε β} {as : List α} {a : α} {e : ε} (ha : a ∈ as)
    (h : f a = .error e) : ∃ e', as.mapM f = .error e' := by
  induction as with
  | nil => cases ha
  | cons b as ih =>
      rw [List.mapM_cons]
      cases hb : f b with
      | error e' => exact ⟨e', rfl⟩
      | ok c =>
          rcases List.mem_cons.mp ha with rfl | ha
          · rw [h] at hb
            cases hb
          · obtain ⟨e', hrest⟩ := ih ha
            refine ⟨e', ?_⟩
            rw [hrest]
            rfl

/-- Steps that go through hand on what they give and the state that they leave. -/
theorem bind_apply_eq_ok_iff {σ : Type} {m : StateT σ (Except ε) α} {f : α → StateT σ (Except ε) β}
    {s s'' : σ} {b : β} :
    (m >>= f) s = .ok (b, s'') ↔ ∃ a s', m s = .ok (a, s') ∧ f a s' = .ok (b, s'') := by
  have hbind : (m >>= f) s = (m s >>= fun p => f p.1 p.2) := rfl
  rw [hbind, bind_eq_ok_iff]
  exact Prod.exists

end SqlMapper
