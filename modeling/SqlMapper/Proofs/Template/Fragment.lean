import Mathlib
import SqlMapper.Template.Folding
/-!
# SqlMapper.Proofs.Template.Fragment

The fragment of the template language in which no value is taken apart and nothing is called but the filters
that write SQL: expressions of constants, variables, lists and tuples, logic, equality, and the questions
whether a value is there or null; statements that print, choose, loop and assign, and clauses.
-/

namespace SqlMapper.Template

/-! ### The fragment -/

mutual

/-- Is an expression of the fragment? -/
def Expr.isBasic {ν : Type} : Expr ν → Bool
  | .lit _ | .var _ => true
  | .tuple xs | .list xs => allBasic xs
  | .unary .not e => e.isBasic
  | .and l r | .or l r => l.isBasic && r.isBasic
  | .compare l rest => l.isBasic && comparedBasic rest
  | .filter name e args _ => (Sql.Filter.ofName? name).isSome && optionBasic e && args.isEmpty
  | .test name e args _ => (name == "defined" || name == "none") && e.isBasic && args.isEmpty
  | _ => false

/-- Are expressions of the fragment? -/
def allBasic {ν : Type} : List (Expr ν) → Bool
  | [] => true
  | e :: es => e.isBasic && allBasic es

/-- Are these comparisons for equality with expressions of the fragment? -/
def comparedBasic {ν : Type} : List (CompareOp × Expr ν) → Bool
  | [] => true
  | (op, e) :: es => op == .eq && e.isBasic && comparedBasic es

/-- Is an optional expression of the fragment? -/
def optionBasic {ν : Type} : Option (Expr ν) → Bool
  | none => true
  | some e => e.isBasic

end

mutual

/-- Are all parts of a target variables? -/
def Target.isBasic {ν : Type} : Target ν → Bool
  | .var _ => true
  | .field .. => false
  | .tuple ts => allTargetsBasic ts

/-- Are all parts of targets variables? -/
def allTargetsBasic {ν : Type} : List (Target ν) → Bool
  | [] => true
  | t :: ts => t.isBasic && allTargetsBasic ts

end

/-- Is a piece of output of the fragment? -/
def Piece.isBasic {ν : Type} : Piece ν → Bool
  | .data _ => true
  | .print e => e.isBasic

mutual

/-- Is a statement of the fragment? -/
def Stmt.isBasic : Stmt → Bool
  | .output pieces => pieces.all Piece.isBasic
  | .choice test body more otherwise =>
    test.isBasic && bodyBasic body && moreBasic more && bodyBasic otherwise
  | .loop target source test _ body otherwise _ =>
    target.isBasic && source.isBasic && test.all Expr.isBasic && bodyBasic body && bodyBasic otherwise
  | .assign target e => target.isBasic && e.isBasic
  | .capture target filter body => target.isBasic && filter.all Expr.isBasic && bodyBasic body
  | .clause _ body _ => bodyBasic body
  | _ => false

/-- Are statements in a row of the fragment? -/
def bodyBasic : List Stmt → Bool
  | [] => true
  | s :: ss => s.isBasic && bodyBasic ss

/-- Are further branches of a choice of the fragment? -/
def moreBasic : List (Expr String × List Stmt) → Bool
  | [] => true
  | (test, body) :: more => test.isBasic && bodyBasic body && moreBasic more

end

mutual

/-- Is a linked statement of the fragment? Loops and snippets are looked at in the program's tables. -/
def Node.isBasic : Node → Bool
  | .text _ | .loop _ | .clause .. => true
  | .print e => e.isBasic
  | .choice test body more otherwise =>
    test.isBasic && nodesBasic body && branchesBasic more && nodesBasic otherwise
  | .assign target e => target.isBasic && e.isBasic
  | .capture _ body filter target =>
    nodesBasic body && filter.all (fun f => f.2.isBasic) && target.isBasic
  | _ => false

/-- Are linked statements in a row of the fragment? -/
def nodesBasic : List Node → Bool
  | [] => true
  | n :: ns => n.isBasic && nodesBasic ns

/-- Are linked branches of the fragment? -/
def branchesBasic : List (Code × List Node) → Bool
  | [] => true
  | (test, body) :: more => test.isBasic && nodesBasic body && branchesBasic more

end

/-- Is a loop of the fragment? -/
structure Loop.IsBasic (l : Loop) : Prop where
  target : l.target.isBasic = true
  source : l.source.isBasic = true
  test : ∀ s t e, l.test = some (s, t, e) → t.isBasic = true ∧ e.isBasic = true
  body : nodesBasic l.body = true
  otherwise : nodesBasic l.otherwise = true

/-- Is a snippet a piece of the fragment without parameters? -/
structure Snippet.IsBasic (s : Snippet) : Prop where
  params : s.params = []
  defaults : s.defaults = []
  body : nodesBasic s.body = true

/-- Is a program of the fragment? -/
structure Program.IsBasic (p : Program) : Prop where
  body : nodesBasic p.body = true
  loops : ∀ l ∈ p.loops, l.IsBasic
  snippets : ∀ s ∈ p.snippets, s.IsBasic

/-! ### Parts -/

section Parts

variable {ν : Type} {xs : List (Expr ν)} {ns ms : List Node}

theorem allBasic_iff : allBasic xs = true ↔ ∀ e ∈ xs, e.isBasic = true := by
  induction xs with
  | nil => simp [allBasic]
  | cons e xs ih => simp [allBasic, ih]

theorem Expr.isBasic_filter_iff {name : String} {e : Option (Expr ν)} {args : List (Passing × Expr ν)} {line : Nat} :
    (Expr.filter name e args line).isBasic = true ↔
      (Sql.Filter.ofName? name).isSome = true ∧ optionBasic e = true ∧ args = [] := by
  simp only [Expr.isBasic, Bool.and_eq_true, List.isEmpty_iff, and_assoc]

theorem Expr.isBasic_test_iff {name : String} {e : Expr ν} {args : List (Passing × Expr ν)} {line : Nat} :
    (Expr.test name e args line).isBasic = true ↔
      (name == "defined" || name == "none") = true ∧ e.isBasic = true ∧ args = [] := by
  simp only [Expr.isBasic, Bool.and_eq_true, List.isEmpty_iff, and_assoc]

theorem comparedBasic_cons_iff {op : CompareOp} {e : Expr ν} {rest : List (CompareOp × Expr ν)} :
    comparedBasic ((op, e) :: rest) = true ↔ op = .eq ∧ e.isBasic = true ∧ comparedBasic rest = true := by
  simp only [comparedBasic, Bool.and_eq_true, beq_iff_eq, and_assoc]

theorem nodesBasic_iff : nodesBasic ns = true ↔ ∀ n ∈ ns, n.isBasic = true := by
  induction ns with
  | nil => simp [nodesBasic]
  | cons n ns ih => simp [nodesBasic, ih]

theorem nodesBasic_append : nodesBasic (ns ++ ms) = (nodesBasic ns && nodesBasic ms) := by
  induction ns with
  | nil => simp [nodesBasic]
  | cons n ns ih => simp [nodesBasic, ih, Bool.and_assoc]

mutual

/-- What stands inside an expression of the fragment is of the fragment. -/
theorem Expr.isBasic_of_mem_walk {skip : Expr ν → Bool} {inChoice : Bool} {m : Bool × Expr ν} (e : Expr ν)
    (h : e.isBasic = true) (hm : m ∈ e.walk skip inChoice) : m.2.isBasic = true := by
  unfold Expr.walk at hm
  split at hm
  case isTrue => cases hm
  case isFalse =>
      rcases List.mem_cons.mp hm with rfl | hm
      · exact h
      cases e with
      | lit | var => cases hm
      | tuple xs | list xs => exact isBasic_of_mem_walkAll xs h hm
      | unary op e =>
          cases op with
          | not => exact e.isBasic_of_mem_walk h hm
          | negate | plus => cases h
      | and l r | or l r =>
          obtain ⟨hl, hr⟩ := Bool.and_eq_true_iff.mp h
          exact (List.mem_append.mp hm).elim (l.isBasic_of_mem_walk hl) (r.isBasic_of_mem_walk hr)
      | compare l rest =>
          obtain ⟨hl, hrest⟩ := Bool.and_eq_true_iff.mp h
          exact (List.mem_append.mp hm).elim (l.isBasic_of_mem_walk hl) (isBasic_of_mem_walkCompared rest hrest)
      | filter name e args line =>
          obtain ⟨-, he, rfl⟩ := Expr.isBasic_filter_iff.mp h
          rcases List.mem_append.mp hm with hm | hm
          · cases e with
            | none => cases hm
            | some e => exact e.isBasic_of_mem_walk he hm
          · cases hm
      | test name e args line =>
          obtain ⟨-, he, rfl⟩ := Expr.isBasic_test_iff.mp h
          exact (List.mem_append.mp hm).elim (e.isBasic_of_mem_walk he) fun hm => nomatch hm
      | _ => cases h

theorem isBasic_of_mem_walkAll {skip : Expr ν → Bool} {inChoice : Bool} {m : Bool × Expr ν}
    (xs : List (Expr ν)) (h : allBasic xs = true) (hm : m ∈ walkAll skip inChoice xs) :
    m.2.isBasic = true := by
  cases xs with
  | nil => cases hm
  | cons e xs =>
      obtain ⟨he, hxs⟩ := Bool.and_eq_true_iff.mp h
      exact (List.mem_append.mp hm).elim (e.isBasic_of_mem_walk he) (isBasic_of_mem_walkAll xs hxs)

theorem isBasic_of_mem_walkCompared {skip : Expr ν → Bool} {inChoice : Bool} {m : Bool × Expr ν}
    (rest : List (CompareOp × Expr ν)) (h : comparedBasic rest = true)
    (hm : m ∈ walkCompared skip inChoice rest) : m.2.isBasic = true := by
  cases rest with
  | nil => cases hm
  | cons p rest =>
      obtain ⟨op, e⟩ := p
      obtain ⟨-, he, hrest⟩ := comparedBasic_cons_iff.mp h
      exact (List.mem_append.mp hm).elim (e.isBasic_of_mem_walk he) (isBasic_of_mem_walkCompared rest hrest)

end

end Parts

/-! ### Names to places -/

mutual

theorem Expr.isBasic_resolve (env : Enclosing) (operand : Place) (e : Expr String) (h : e.isBasic = true) :
    (e.resolve env operand).isBasic = true := by
  cases e with
  | lit | var => rfl
  | tuple xs | list xs => exact allBasic_resolveAll env operand xs h
  | unary op e =>
      cases op with
      | not => exact e.isBasic_resolve env operand h
      | negate | plus => cases h
  | and l r | or l r =>
      obtain ⟨hl, hr⟩ := Bool.and_eq_true_iff.mp h
      exact Bool.and_eq_true_iff.mpr ⟨l.isBasic_resolve env operand hl, r.isBasic_resolve env operand hr⟩
  | compare l rest =>
      obtain ⟨hl, hrest⟩ := Bool.and_eq_true_iff.mp h
      exact Bool.and_eq_true_iff.mpr
        ⟨l.isBasic_resolve env operand hl, comparedBasic_resolveCompared env operand rest hrest⟩
  | filter name e args line =>
      obtain ⟨hname, he, rfl⟩ := Expr.isBasic_filter_iff.mp h
      cases e with
      | none => exact Expr.isBasic_filter_iff.mpr ⟨hname, rfl, rfl⟩
      | some e => exact Expr.isBasic_filter_iff.mpr ⟨hname, e.isBasic_resolve env operand he, rfl⟩
  | test name e args line =>
      obtain ⟨hname, he, rfl⟩ := Expr.isBasic_test_iff.mp h
      exact Expr.isBasic_test_iff.mpr ⟨hname, e.isBasic_resolve env operand he, rfl⟩
  | _ => cases h

theorem allBasic_resolveAll (env : Enclosing) (operand : Place) (xs : List (Expr String))
    (h : allBasic xs = true) : allBasic (resolveAll env operand xs) = true := by
  cases xs with
  | nil => rfl
  | cons e xs =>
      obtain ⟨he, hxs⟩ := Bool.and_eq_true_iff.mp h
      exact Bool.and_eq_true_iff.mpr ⟨e.isBasic_resolve env operand he, allBasic_resolveAll env operand xs hxs⟩

theorem comparedBasic_resolveCompared (env : Enclosing) (operand : Place)
    (rest : List (CompareOp × Expr String)) (h : comparedBasic rest = true) :
    comparedBasic (resolveCompared env operand rest) = true := by
  cases rest with
  | nil => rfl
  | cons p rest =>
      obtain ⟨op, e⟩ := p
      obtain ⟨hop, he, hrest⟩ := comparedBasic_cons_iff.mp h
      exact comparedBasic_cons_iff.mpr
        ⟨hop, e.isBasic_resolve env operand he, comparedBasic_resolveCompared env operand rest hrest⟩

end

mutual

theorem Target.isBasic_resolve (env : Enclosing) (t : Target String) (h : t.isBasic = true) :
    (t.resolve env).isBasic = true := by
  cases t with
  | var => rfl
  | field => cases h
  | tuple ts => exact allTargetsBasic_resolve env ts h

theorem allTargetsBasic_resolve (env : Enclosing) (ts : List (Target String))
    (h : allTargetsBasic ts = true) : allTargetsBasic (resolveTargets env ts) = true := by
  cases ts with
  | nil => rfl
  | cons t ts =>
      obtain ⟨ht, hts⟩ := Bool.and_eq_true_iff.mp h
      exact Bool.and_eq_true_iff.mpr ⟨t.isBasic_resolve env ht, allTargetsBasic_resolve env ts hts⟩

end

/-! ### What is left when constants are worked out -/

section Folding

variable (strict : Bool)

mutual

theorem Expr.isBasic_fold (how : Folding) (e : Expr String) (h : e.isBasic = true) :
    (e.fold strict how).isBasic = true := by
  unfold Expr.fold
  generalize how.ofParts strict e = parts
  cases e with
  | lit => rfl
  | var =>
      dsimp only
      split <;> rfl
  | tuple xs | list xs => exact allBasic_foldAll parts xs h
  | unary op e =>
      cases op with
      | not => exact e.isBasic_fold parts h
      | negate | plus => cases h
  | and l r | or l r =>
      obtain ⟨hl, hr⟩ := Bool.and_eq_true_iff.mp h
      exact Bool.and_eq_true_iff.mpr ⟨l.isBasic_fold parts hl, r.isBasic_fold parts hr⟩
  | compare l rest =>
      obtain ⟨hl, hrest⟩ := Bool.and_eq_true_iff.mp h
      exact Bool.and_eq_true_iff.mpr ⟨l.isBasic_fold parts hl, comparedBasic_foldCompared parts rest hrest⟩
  | filter name e args line =>
      obtain ⟨hname, he, rfl⟩ := Expr.isBasic_filter_iff.mp h
      cases e with
      | none => exact Expr.isBasic_filter_iff.mpr ⟨hname, rfl, rfl⟩
      | some e => exact Expr.isBasic_filter_iff.mpr ⟨hname, e.isBasic_fold parts he, rfl⟩
  | test name e args line =>
      obtain ⟨hname, he, rfl⟩ := Expr.isBasic_test_iff.mp h
      exact Expr.isBasic_test_iff.mpr ⟨hname, e.isBasic_fold parts he, rfl⟩
  | _ => cases h

theorem allBasic_foldAll (how : Folding) (xs : List (Expr String)) (h : allBasic xs = true) :
    allBasic (foldAll strict how xs) = true := by
  cases xs with
  | nil => rfl
  | cons e xs =>
      obtain ⟨he, hxs⟩ := Bool.and_eq_true_iff.mp h
      exact Bool.and_eq_true_iff.mpr ⟨e.isBasic_fold how he, allBasic_foldAll how xs hxs⟩

theorem comparedBasic_foldCompared (how : Folding) (rest : List (CompareOp × Expr String))
    (h : comparedBasic rest = true) : comparedBasic (foldCompared strict how rest) = true := by
  cases rest with
  | nil => rfl
  | cons p rest =>
      obtain ⟨op, e⟩ := p
      obtain ⟨hop, he, hrest⟩ := comparedBasic_cons_iff.mp h
      exact comparedBasic_cons_iff.mpr ⟨hop, e.isBasic_fold how he, comparedBasic_foldCompared how rest hrest⟩

end

theorem Expr.isBasic_folded {e : Expr String} (h : e.isBasic = true) : (e.folded strict).isBasic = true :=
  e.isBasic_fold strict .whole h

theorem all_isBasic_folded {e? : Option (Expr String)} (h : e?.all Expr.isBasic = true) :
    (e?.map (Expr.folded strict)).all Expr.isBasic = true := by
  cases e? with
  | none => rfl
  | some e => exact Expr.isBasic_folded strict h

theorem Piece.isBasic_folded {p : Piece String} (h : p.isBasic = true) : (p.folded strict).isBasic = true := by
  cases p with
  | data s => rfl
  | print e =>
      rw [Piece.folded]
      split
      · exact h
      · exact Expr.isBasic_folded strict h

mutual

theorem Stmt.isBasic_folded (s : Stmt) (h : s.isBasic = true) : (s.folded strict).isBasic = true := by
  cases s with
  | output pieces =>
      simp only [Stmt.folded, Stmt.isBasic, List.all_map, List.all_eq_true] at h ⊢
      exact fun p hp => Piece.isBasic_folded strict (h p hp)
  | choice test body more otherwise =>
      simp only [Stmt.folded, Stmt.isBasic, Bool.and_eq_true] at h ⊢
      obtain ⟨⟨⟨htest, hbody⟩, hmore⟩, hotherwise⟩ := h
      exact ⟨⟨⟨Expr.isBasic_folded strict htest, bodyBasic_foldBody body hbody⟩,
        moreBasic_foldBranches more hmore⟩, bodyBasic_foldBody otherwise hotherwise⟩
  | loop target source test recursive body otherwise line =>
      simp only [Stmt.folded, Stmt.isBasic, Bool.and_eq_true] at h ⊢
      obtain ⟨⟨⟨⟨htarget, hsource⟩, htest⟩, hbody⟩, hotherwise⟩ := h
      exact ⟨⟨⟨⟨htarget, Expr.isBasic_folded strict hsource⟩, all_isBasic_folded strict htest⟩,
        bodyBasic_foldBody body hbody⟩, bodyBasic_foldBody otherwise hotherwise⟩
  | assign target e =>
      obtain ⟨htarget, he⟩ := Bool.and_eq_true_iff.mp h
      exact Bool.and_eq_true_iff.mpr ⟨htarget, Expr.isBasic_folded strict he⟩
  | capture target filter body =>
      simp only [Stmt.folded, Stmt.isBasic, Bool.and_eq_true] at h ⊢
      obtain ⟨⟨htarget, hfilter⟩, hbody⟩ := h
      exact ⟨⟨htarget, all_isBasic_folded strict hfilter⟩, bodyBasic_foldBody body hbody⟩
  | clause kind body line => exact bodyBasic_foldBody body h
  | _ => cases h

/-- What is left of statements of the fragment is of the fragment. -/
theorem bodyBasic_foldBody (body : List Stmt) (h : bodyBasic body = true) :
    bodyBasic (foldBody strict body) = true := by
  cases body with
  | nil => rfl
  | cons s ss =>
      obtain ⟨hs, hss⟩ := Bool.and_eq_true_iff.mp h
      exact Bool.and_eq_true_iff.mpr ⟨s.isBasic_folded hs, bodyBasic_foldBody ss hss⟩

theorem moreBasic_foldBranches (more : List (Expr String × List Stmt)) (h : moreBasic more = true) :
    moreBasic (foldBranches strict more) = true := by
  cases more with
  | nil => rfl
  | cons branch more =>
      obtain ⟨test, body⟩ := branch
      simp only [foldBranches, moreBasic, Bool.and_eq_true] at h ⊢
      obtain ⟨⟨htest, hbody⟩, hmore⟩ := h
      exact ⟨⟨Expr.isBasic_folded strict htest, bodyBasic_foldBody body hbody⟩, moreBasic_foldBranches more hmore⟩

end

end Folding

end SqlMapper.Template
