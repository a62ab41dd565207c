import SqlMapper.Proofs.Template.Fragment
/-!
# SqlMapper.Proofs.Template.FragmentConstants

Constants of the fragment. What is worked out while a template is linked does not depend on whether absent values
are strict, since no constant of the fragment is absent (`constantText?_eq`); and so the tree that is left is the
same too (`foldBody_eq`).
-/

namespace SqlMapper.Template

/-! ### Filters of the fragment -/

/-- What a filter that writes SQL reads: a list in place of a stream that is to become a list. -/
def sqlOperand : Sql.Filter → Value → Run Value
  | .inList, .cell (.stream _) ref => do return .list (← Store.drain ref)
  | _, v => return v

/-- A filter that writes SQL, without arguments. -/
def writeSql (name : String) (f : Sql.Filter) (v : Value) : Run Value := do
  liftResult (checkFilterArgs name {})
  let v ← sqlOperand f v
  return .sql (← liftResult (f.apply v))

/-- Where the names of filters that write SQL stand, no other filter is meant. -/
theorem applyFilter_eq (ctx : Context) {name : String} {f : Sql.Filter}
    (h : Sql.Filter.ofName? name = some f) (n : Nat) (v : Value) :
    applyFilter ctx n name v {} = writeSql name f v := by
  have hplain : applyPlain ctx name v {} = writeSql name f v := by
    unfold applyPlain writeSql
    simp only [h]
    refine bind_congr fun _ => ?_
    split
    · simp only [sqlOperand, Store.items, bind_assoc, pure_bind]
    · rw [sqlOperand]
      assumption
  unfold applyFilter
  split
  · exact hplain
  · cases h
  · exact hplain

/-- The filters that write SQL are known. -/
theorem mem_filterNames {name : String} (h : (Sql.Filter.ofName? name).isSome = true) :
    filterNames.contains name = true := by
  unfold Sql.Filter.ofName? at h
  split at h
  all_goals first
    | decide
    | cases h

theorem mem_testNames {name : String} (h : (name == "defined" || name == "none") = true) :
    testNames.contains name = true := by
  rcases Bool.or_eq_true_iff.mp h with h | h
  · rw [beq_iff_eq.mp h]
    decide
  · rw [beq_iff_eq.mp h]
    decide

/-! ### Constants -/

section Constants

variable {ctx ctx' : Context} {m m' : Meaning} {frames : Frames}

theorem mapM_congr_mem {α β : Type} {μ : Type → Type} [Monad μ] [LawfulMonad μ] {f g : α → μ β} {as : List α}
    (h : ∀ a ∈ as, f a = g a) : as.mapM f = as.mapM g := by
  induction as with
  | nil => rfl
  | cons a as ih =>
      rw [List.mapM_cons, List.mapM_cons, h a List.mem_cons_self, ih fun b hb => h b (List.mem_cons_of_mem _ hb)]

/-- Comparisons of the fragment mean the same if their operands do. -/
theorem evalComparisons_congr (h : ∀ e : Code, e.isBasic = true → m.eval frames e = m'.eval frames e)
    (v : Value) (rest : List (CompareOp × Code)) (hrest : comparedBasic rest = true) :
    evalComparisons m frames v rest = evalComparisons m' frames v rest := by
  induction rest generalizing v with
  | nil => rfl
  | cons p rest ih =>
      obtain ⟨op, e⟩ := p
      obtain ⟨-, he, hrest⟩ := comparedBasic_cons_iff.mp hrest
      simp only [evalComparisons, h e he, ih _ hrest]

/-- An expression of the fragment other than a variable means the same if its parts do. -/
theorem evalExpr_congr (h : ∀ e : Code, e.isBasic = true → m.eval frames e = m'.eval frames e) {e : Code}
    (he : e.isBasic = true) (hvar : ∀ p, e ≠ .var p) :
    evalExpr ctx m frames e = evalExpr ctx' m' frames e := by
  cases e with
  | lit => rfl
  | var p => exact absurd rfl (hvar p)
  | tuple xs | list xs =>
      have hxs : xs.mapM (m.eval frames) = xs.mapM (m'.eval frames) :=
        mapM_congr_mem fun x hx => h x (allBasic_iff.mp he x hx)
      simp only [evalExpr, hxs]
  | unary op e =>
      cases op with
      | not => simp only [evalExpr, h e he]
      | negate | plus => cases he
  | and l r | or l r =>
      obtain ⟨hl, hr⟩ := Bool.and_eq_true_iff.mp he
      simp only [evalExpr, h l hl, h r hr]
  | compare l rest =>
      obtain ⟨hl, hrest⟩ := Bool.and_eq_true_iff.mp he
      simp only [evalExpr, h l hl, evalComparisons_congr h _ rest hrest]
  | filter name e args line =>
      obtain ⟨hname, hoperand, rfl⟩ := Expr.isBasic_filter_iff.mp he
      obtain ⟨f, hf⟩ := Option.isSome_iff_exists.mp hname
      have hbound : evalBound m frames e = evalBound m' frames e := by
        cases e with
        | none => rfl
        | some e => exact h e hoperand
      simp only [evalExpr, hbound, evalArgs, List.foldlM_nil, pure_bind, applyFilter_eq _ hf]
  | test name e args line =>
      obtain ⟨-, hoperand, rfl⟩ := Expr.isBasic_test_iff.mp he
      simp only [evalExpr, h e hoperand, evalArgs, List.foldlM_nil]
  | _ => cases he

/-- The value of a constant expression of the fragment has nothing to do with strictness. -/
theorem evalConstant_eq (strict strict' : Bool) (fuel : Nat) {e : Code} (he : e.isBasic = true) :
    evalConstant (constantContext strict) fuel e = evalConstant (constantContext strict') fuel e := by
  induction fuel generalizing e with
  | zero => rfl
  | succ fuel ih =>
      by_cases hvar : ∀ p, e ≠ .var p
      · have hparts : evalExpr (constantContext strict)
              ⟨fun _ => evalConstant (constantContext strict) fuel, fun _ _ => throw .outOfFuel⟩ [] e =
            evalExpr (constantContext strict')
              ⟨fun _ => evalConstant (constantContext strict') fuel, fun _ _ => throw .outOfFuel⟩ [] e :=
          evalExpr_congr (fun e he => ih he) he hvar
        cases e with
        | choice => cases he
        | _ => simp only [evalConstant, hparts]
      · -- a variable has no constant value, with whatever fuel
        obtain ⟨p, rfl⟩ : ∃ p, e = .var p := by simpa using hvar
        rfl

theorem constantText?_eq (strict strict' : Bool) {e : Code} (he : e.isBasic = true) :
    constantText? strict e = constantText? strict' e := by
  unfold constantText?
  rw [evalConstant_eq strict strict' constantFuel he]

theorem isKnown_eq (strict strict' : Bool) {e : Code} (he : e.isBasic = true) :
    isKnown strict e = isKnown strict' e := by
  unfold isKnown
  rw [evalConstant_eq strict strict' constantFuel he]

end Constants

/-! ### What is left when constants are worked out -/

section Folding

variable (strict strict' : Bool)

theorem Expr.isBasic_unplaced {e : Expr String} (h : e.isBasic = true) : e.unplaced.isBasic = true :=
  e.isBasic_resolve _ _ h

theorem Folding.ofParts_eq (how : Folding) {e : Expr String} (h : e.isBasic = true) :
    how.ofParts strict e = how.ofParts strict' e := by
  unfold Folding.ofParts
  rw [isKnown_eq strict strict' (Expr.isBasic_unplaced h)]

mutual

theorem Expr.fold_eq (how : Folding) (e : Expr String) (h : e.isBasic = true) :
    e.fold strict how = e.fold strict' how := by
  unfold Expr.fold
  rw [how.ofParts_eq strict strict' h]
  generalize how.ofParts strict' e = parts
  cases e with
  | lit | var => rfl
  | tuple xs | list xs =>
      dsimp only
      rw [foldAll_eq parts xs h]
  | unary op e =>
      cases op with
      | not =>
          dsimp only
          rw [e.fold_eq parts h]
      | negate | plus => cases h
  | and l r | or l r =>
      obtain ⟨hl, hr⟩ := Bool.and_eq_true_iff.mp h
      dsimp only
      rw [l.fold_eq parts hl, r.fold_eq parts hr]
  | compare l rest =>
      obtain ⟨hl, hrest⟩ := Bool.and_eq_true_iff.mp h
      dsimp only
      rw [l.fold_eq parts hl, foldCompared_eq parts rest hrest]
  | filter name e args line =>
      obtain ⟨-, he, rfl⟩ := Expr.isBasic_filter_iff.mp h
      cases e with
      | none => rfl
      | some e =>
          simp only [foldOption, foldArgs]
          rw [e.fold_eq parts he]
  | test name e args line =>
      obtain ⟨-, he, rfl⟩ := Expr.isBasic_test_iff.mp h
      dsimp only
      rw [e.fold_eq parts he]
      rfl
  | _ => cases h

theorem foldAll_eq (how : Folding) (xs : List (Expr String)) (h : allBasic xs = true) :
    foldAll strict how xs = foldAll strict' how xs := by
  cases xs with
  | nil => rfl
  | cons e xs =>
      obtain ⟨he, hxs⟩ := Bool.and_eq_true_iff.mp h
      rw [foldAll, foldAll, e.fold_eq how he, foldAll_eq how xs hxs]

theorem foldCompared_eq (how : Folding) (rest : List (CompareOp × Expr String))
    (h : comparedBasic rest = true) : foldCompared strict how rest = foldCompared strict' how rest := by
  cases rest with
  | nil => rfl
  | cons p rest =>
      obtain ⟨op, e⟩ := p
      obtain ⟨-, he, hrest⟩ := comparedBasic_cons_iff.mp h
      rw [foldCompared, foldCompared, e.fold_eq how he, foldCompared_eq how rest hrest]

end

theorem Expr.folded_eq {e : Expr String} (h : e.isBasic = true) : e.folded strict = e.folded strict' :=
  e.fold_eq strict strict' .whole h

theorem map_folded_eq {e? : Option (Expr String)} (h : e?.all Expr.isBasic = true) :
    e?.map (Expr.folded strict) = e?.map (Expr.folded strict') := by
  cases e? with
  | none => rw [Option.map_none, Option.map_none]
  | some e =>
      rw [Option.all_some] at h
      rw [Option.map_some, Option.map_some, Expr.folded_eq strict strict' h]

theorem Piece.folded_eq {p : Piece String} (h : p.isBasic = true) : p.folded strict = p.folded strict' := by
  cases p with
  | data s => rfl
  | print e =>
      rw [Piece.folded, Piece.folded, constantText?_eq strict strict' (Expr.isBasic_unplaced h),
        Expr.folded_eq strict strict' h]

mutual

theorem Stmt.folded_eq (s : Stmt) (h : s.isBasic = true) : s.folded strict = s.folded strict' := by
  cases s with
  | output pieces =>
      rw [Stmt.folded, Stmt.folded]
      exact congrArg Stmt.output
        (List.map_congr_left fun p hp => Piece.folded_eq strict strict' (List.all_eq_true.mp h p hp))
  | choice test body more otherwise =>
      simp only [Stmt.isBasic, Bool.and_eq_true] at h
      obtain ⟨⟨⟨htest, hbody⟩, hmore⟩, hotherwise⟩ := h
      rw [Stmt.folded, Stmt.folded, Expr.folded_eq strict strict' htest, foldBody_eq body hbody,
        foldBranches_eq more hmore, foldBody_eq otherwise hotherwise]
  | loop target source test recursive body otherwise line =>
      simp only [Stmt.isBasic, Bool.and_eq_true] at h
      obtain ⟨⟨⟨⟨-, hsource⟩, htest⟩, hbody⟩, hotherwise⟩ := h
      rw [Stmt.folded, Stmt.folded, Expr.folded_eq strict strict' hsource, map_folded_eq strict strict' htest,
        foldBody_eq body hbody, foldBody_eq otherwise hotherwise]
  | assign target e =>
      rw [Stmt.folded, Stmt.folded, Expr.folded_eq strict strict' (Bool.and_eq_true_iff.mp h).2]
  | capture target filter body =>
      simp only [Stmt.isBasic, Bool.and_eq_true] at h
      obtain ⟨⟨-, hfilter⟩, hbody⟩ := h
      rw [Stmt.folded, Stmt.folded, map_folded_eq strict strict' hfilter, foldBody_eq body hbody]
  | clause kind body line => rw [Stmt.folded, Stmt.folded, foldBody_eq body h]
  | _ => cases h

/-- What is left of statements of the fragment has nothing to do with strictness. -/
theorem foldBody_eq (body : List Stmt) (h : bodyBasic body = true) :
    foldBody strict body = foldBody strict' body := by
  cases body with
  | nil => rfl
  | cons s ss =>
      obtain ⟨hs, hss⟩ := Bool.and_eq_true_iff.mp h
      rw [foldBody, foldBody, s.folded_eq hs, foldBody_eq ss hss]

theorem foldBranches_eq (more : List (Expr String × List Stmt)) (h : moreBasic more = true) :
    foldBranches strict more = foldBranches strict' more := by
  cases more with
  | nil => rfl
  | cons branch more =>
      obtain ⟨test, body⟩ := branch
      simp only [moreBasic, Bool.and_eq_true] at h
      obtain ⟨⟨htest, hbody⟩, hmore⟩ := h
      rw [foldBranches, foldBranches, Expr.folded_eq strict strict' htest, foldBody_eq body hbody,
        foldBranches_eq more hmore]

end

end Folding

end SqlMapper.Template
