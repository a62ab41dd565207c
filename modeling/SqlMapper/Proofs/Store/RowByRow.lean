import SqlMapper.Proofs.Store.Constraints
/-!
# SqlMapper.Proofs.Store.RowByRow

A database changes rows one after another, and checks each against the table as it is by then (`changeRows`): it may
have changed some rows before it comes to one that breaks a constraint. The table is checked as a whole here. The two
come to the same, down to the error (`update_eq_changeRows`), because all rows get the same values: what is wrong with
one of them by then is wrong in the end, and the other way round.
-/

namespace SqlMapper

/-! ### Equality of a cell with itself -/

theorem not_float_lt_self (x : Float) : ¬ x < x := by
  intro h
  have hmodel : x.toModel < x.toModel := of_decide_eq_true h
  have hunpacked : Float.Model.UnpackedFloat.lt x.toModel.unpack x.toModel.unpack = true := hmodel
  generalize x.toModel.unpack = y at hunpacked
  cases y with
  | notANumber => cases hunpacked
  | infinity s => cases s <;> cases hunpacked
  | zero s => cases hunpacked
  | finite s m e hm =>
      cases s <;> simp [Float.Model.UnpackedFloat.lt, Float.Model.UnpackedFloat.compare] at hunpacked

theorem Cell.equals_self {c : Cell} (h : c.isNull = false) : c.equals c = true := by
  have horder : c.order c = .eq := by
    cases c with
    | null => rfl
    | int n => simp [order]
    | real x => simp [order, numeric?, Numeric.compare?, not_float_lt_self]; split <;> rfl
    | text s => exact compareTexts_eq_iff.mpr rfl
    | blob bs => exact compareTexts_eq_iff.mpr rfl
  simp [equals, h, horder]

/-! ### Changed rows -/

theorem Tuple.lookup_change (t changes : Tuple) (a : String) :
    (t.change changes).lookup a = (t.lookup a).map fun c => (changes.lookup a).getD c := by
  induction t with
  | nil => rfl
  | cons e t ih =>
      obtain ⟨b, c⟩ := e
      rw [change, List.map_cons, List.lookup_cons, List.lookup_cons]
      cases hab : a == b with
      | true => simp [eq_of_beq hab]
      | false => exact ih

/-- What is there gets its new value, if it is to have one. -/
theorem Tuple.cell_change {t : Tuple} (changes : Tuple) {a : String} (h : (t.cell a).isNull = false) :
    (t.change changes).cell a = (changes.lookup a).getD (t.cell a) := by
  unfold cell at h ⊢
  rw [lookup_change]
  cases ha : t.lookup a with
  | none =>
      rw [ha] at h
      cases h
  | some c => rfl

namespace Relation

variable {r : Relation} {w : Condition} {changes : Tuple}

/-- What the changes make empty does not depend on the row. -/
theorem emptyField?_change {t u : Tuple} (ht : r.emptyField? t = none) (hu : r.emptyField? u = none) :
    r.emptyField? (t.change changes) = r.emptyField? (u.change changes) := by
  refine List.find?_congr fun f hf => ?_
  cases hnull : f.nullable with
  | true => rfl
  | false =>
      have htf := emptyField?_eq_none_iff.mp ht f hf hnull
      have huf := emptyField?_eq_none_iff.mp hu f hf hnull
      rw [Tuple.cell_change changes htf, Tuple.cell_change changes huf]
      cases changes.lookup f.name with
      | none => simp [htf, huf]
      | some c => rfl

/-- A row that has got the key of another one still has it when that one is changed as well. -/
theorem sameKey_change (hkey : r.cls.KeyRefusesNull) {t u : Tuple} (ht : r.emptyField? t = none)
    (hu : r.emptyField? u = none) (hchange : r.emptyField? (t.change changes) = none)
    (h : r.sameKey (t.change changes) u = true) : r.sameKey (t.change changes) (u.change changes) = true := by
  refine List.all_eq_true.mpr fun f hf => ?_
  have hfields : f ∈ r.cls.fields := List.mem_of_mem_filter hf
  have htf := emptyField?_eq_none_iff.mp ht f hfields (hkey f hf)
  have huf := emptyField?_eq_none_iff.mp hu f hfields (hkey f hf)
  have hfilled := emptyField?_eq_none_iff.mp hchange f hfields (hkey f hf)
  have hsame := List.all_eq_true.mp h f hf
  rw [Tuple.cell_change changes htf] at hfilled hsame ⊢
  rw [Tuple.cell_change changes huf]
  cases hlookup : changes.lookup f.name with
  | none => simpa [hlookup] using hsame
  | some c =>
      rw [hlookup] at hfilled
      exact Cell.equals_self hfilled

/-! ### Row by row -/

/-- Change the rows that meet a condition one after another, each checked against those before it, as they are by then,
and those behind it, as they still are. -/
def changeRows (r : Relation) (w : Condition) (changes : Tuple) :
    List Tuple → List Tuple → Except StoreError (List Tuple)
  | before, [] => .ok before
  | before, t :: behind =>
    if w.holds t then
      match r.emptyField? (t.change changes) with
      | some f => .error (.notNull r.cls.tableName f.column)
      | none =>
        if (before ++ behind).any (r.sameKey (t.change changes)) then
          .error (.unique (String.intercalate ", " r.keyColumns))
        else r.changeRows w changes (before ++ [t.change changes]) behind
    else r.changeRows w changes (before ++ [t]) behind

variable {behind : List Tuple}

/-- A change that makes a column empty that must not be is refused for its first row, and names that column. -/
theorem changeRows_of_emptyField {f : Field} {t : Tuple} (before : List Tuple)
    (hbehind : ∀ u ∈ behind, r.emptyField? u = none) (ht : t ∈ behind) (hmeets : w.holds t = true)
    (hempty : r.emptyField? (t.change changes) = some f) :
    r.changeRows w changes before behind = .error (.notNull r.cls.tableName f.column) ∧
      (behind.map (changedRow w changes)).findSome? r.emptyField? = some f := by
  have htold : ∀ u ∈ behind, r.emptyField? (u.change changes) = some f := fun u hu =>
    (emptyField?_change (hbehind u hu) (hbehind t ht)).trans hempty
  induction behind generalizing before with
  | nil => cases ht
  | cons u behind ih =>
      obtain ⟨hu, hrest⟩ := List.forall_mem_cons.mp hbehind
      obtain ⟨htu, htrest⟩ := List.forall_mem_cons.mp htold
      rw [changeRows, List.map_cons, List.findSome?_cons, changedRow]
      cases hw : w.holds u with
      | true => simp [htu]
      | false =>
          have hne : t ≠ u := by
            rintro rfl
            rw [hmeets] at hw
            cases hw
          have := ih (before ++ [u]) hrest ((List.mem_cons.mp ht).resolve_left hne) htrest
          simpa [hu] using this

/-- Do all rows have different keys, one of them and the others? -/
theorem hasDuplicate_middle {before : List Tuple} {t : Tuple} :
    r.hasDuplicate (before ++ t :: behind) = false ↔
      (∀ u ∈ before ++ behind, r.sameKey t u = false) ∧ r.hasDuplicate (before ++ behind) = false := by
  rw [hasDuplicate_eq_false_iff, hasDuplicate_eq_false_iff]
  exact (List.pairwise_middle fun {s t} hst => (r.sameKey_comm t s).trans hst).trans List.pairwise_cons

/-- Where no column gets empty that must not be, rows are changed one after another exactly if they have different keys
in the end; those in the table have at all times. -/
theorem changeRows_of_filled (hkey : r.cls.KeyRefusesNull) (before : List Tuple)
    (hbehind : ∀ u ∈ behind, r.emptyField? u = none)
    (hfilled : ∀ u ∈ behind, w.holds u = true → r.emptyField? (u.change changes) = none)
    (hdistinct : r.hasDuplicate (before ++ behind) = false) :
    r.changeRows w changes before behind =
      if r.hasDuplicate (before ++ behind.map (changedRow w changes)) then
        .error (.unique (String.intercalate ", " r.keyColumns))
      else .ok (before ++ behind.map (changedRow w changes)) := by
  induction behind generalizing before with
  | nil => simp_all [changeRows]
  | cons t behind ih =>
      obtain ⟨ht, hrest⟩ := List.forall_mem_cons.mp hbehind
      obtain ⟨htfilled, hfilled⟩ := List.forall_mem_cons.mp hfilled
      rw [changeRows, List.map_cons, changedRow]
      cases hw : w.holds t with
      | false =>
          have := ih (before ++ [t]) hrest hfilled (by simpa using hdistinct)
          simpa using this
      | true =>
          rw [if_pos rfl, if_pos rfl, htfilled hw]
          dsimp only
          obtain ⟨-, hothers⟩ := hasDuplicate_middle.mp hdistinct
          cases hclash : (before ++ behind).any (r.sameKey (t.change changes)) with
          | false =>
              have hnew : r.hasDuplicate (before ++ t.change changes :: behind) = false :=
                hasDuplicate_middle.mpr ⟨by simpa only [List.any_eq_false, Bool.not_eq_true] using hclash, hothers⟩
              have := ih (before ++ [t.change changes]) hrest hfilled (by simpa using hnew)
              simpa using this
          | true =>
              obtain ⟨u, hu, hsame⟩ := List.any_eq_true.mp hclash
              -- the row that is in the way has the same key in the end, be it changed or not
              have hend : r.hasDuplicate (before ++ t.change changes :: behind.map (changedRow w changes)) = true := by
                by_contra hno
                obtain ⟨hdiffer, -⟩ := hasDuplicate_middle.mp (Bool.eq_false_iff.mpr hno)
                rcases List.mem_append.mp hu with hu | hu
                · rw [hdiffer u (List.mem_append_left _ hu)] at hsame
                  cases hsame
                · have hlater : r.sameKey (t.change changes) (changedRow w changes u) = true := by
                    unfold changedRow
                    split
                    next => exact sameKey_change hkey ht (hrest u hu) (htfilled hw) hsame
                    next => exact hsame
                  rw [hdiffer _ (List.mem_append_right _ (List.mem_map_of_mem hu))] at hlater
                  cases hlater
              rw [hend]
              rfl

/-- To change rows one after another is to change them all, and to check the table then. -/
theorem changeRows_eq (hr : r.Admits r.rows) (hkey : r.cls.KeyRefusesNull) (w : Condition) (changes : Tuple) :
    r.changeRows w changes [] r.rows = (r.checked (r.changed w changes)).map fun _ => r.changed w changes := by
  have hrows : ∀ u ∈ r.rows, r.emptyField? u = none := fun u hu => emptyField?_eq_none_iff.mpr (hr.filled u hu)
  by_cases hfilled : ∀ u ∈ r.rows, w.holds u = true → r.emptyField? (u.change changes) = none
  · have hchanged : (r.changed w changes).findSome? r.emptyField? = none := by
      refine List.findSome?_eq_none_iff.mpr fun t ht => ?_
      obtain ⟨u, hu, rfl⟩ := List.mem_map.mp ht
      unfold changedRow
      split
      next hw => exact hfilled u hu hw
      next => exact hrows u hu
    rw [changeRows_of_filled hkey [] hrows hfilled (hasDuplicate_eq_false_iff.mpr hr.distinct), checked, hchanged]
    rw [List.nil_append, ← changed]
    cases r.hasDuplicate (r.changed w changes) <;> rfl
  · push Not at hfilled
    obtain ⟨t, ht, hw, hne⟩ := hfilled
    obtain ⟨f, hf⟩ := Option.ne_none_iff_exists'.mp hne
    obtain ⟨hrefused, htold⟩ := changeRows_of_emptyField [] hrows ht hw hf
    rw [hrefused, checked, changed, htold]
    rfl

/-- **An update goes through exactly if its rows can be changed one after another**, fails with the same error, and
comes to the same rows. -/
theorem update_eq_changeRows (hr : r.Admits r.rows) (hkey : r.cls.KeyRefusesNull)
    (hspoils : ¬ (r.rows.countP w.holds ≠ 0 ∧ r.spoilsKey changes)) :
    r.update w changes = (r.changeRows w changes [] r.rows).map fun ts =>
      (r.rows.countP w.holds, { r with rows := r.arranged ts }) := by
  rw [changeRows_eq hr hkey, update, if_neg hspoils]
  change (r.checked (r.changed w changes) >>= _) = _
  cases hchecked : r.checked (r.changed w changes) with
  | error e => rfl
  | ok r' =>
      obtain ⟨-, rfl⟩ := checked_eq_ok_iff.mp hchecked
      rfl

end Relation
end SqlMapper
