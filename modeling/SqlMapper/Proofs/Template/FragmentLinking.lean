import SqlMapper.Proofs.Template.FragmentConstants
import SqlMapper.Proofs.Template.LinkedParts
import SqlMapper.Proofs.Template.Linking
/-!
# SqlMapper.Proofs.Template.FragmentLinking

Linking a template of the fragment (`link_basic`). The program is one of the fragment again, and it does not
depend on whether absent values are strict: constants have the same values, and as all filters and tests of the
fragment exist, none is refused.
-/

namespace SqlMapper.Template

/-! ### What is gathered -/

/-- Are the loops and snippets that have been gathered of the fragment? -/
structure Gathered.IsBasic (g : Gathered) : Prop where
  loops : ∀ l ∈ g.loops, l.IsBasic
  snippets : ∀ s ∈ g.snippets, s.IsBasic

namespace Link

variable {α β : Type}

/-- If the first step goes through, the second does the same. What they give is as wanted, and only loops and
snippets of the fragment are gathered. -/
def Agrees (post : α → Prop) (m n : Link α) : Prop :=
  ∀ (g : Gathered), g.IsBasic → ∀ (a : α) (g' : Gathered), m g = .ok (a, g') →
    n g = .ok (a, g') ∧ post a ∧ g'.IsBasic

variable {P : α → Prop} {Q : β → Prop}

theorem Agrees.pure {a : α} (h : P a) : Agrees P (Pure.pure a) (Pure.pure a) := by
  intro g hg b g' hm
  cases hm
  exact ⟨rfl, h, hg⟩

theorem Agrees.bind {m n : Link α} {f k : α → Link β} (h : Agrees P m n)
    (hf : ∀ a, P a → Agrees Q (f a) (k a)) : Agrees Q (m >>= f) (n >>= k) := by
  intro g hg b g'' hm
  obtain ⟨a, g', hfirst, hsecond⟩ := bind_apply_eq_ok_iff.mp hm
  obtain ⟨hfirst, hP, hg'⟩ := h g hg a g' hfirst
  obtain ⟨hsecond, hQ, hg''⟩ := hf a hP g' hg' b g'' hsecond
  exact ⟨bind_apply_eq_ok_iff.mpr ⟨a, g', hfirst, hsecond⟩, hQ, hg''⟩

theorem Agrees.fails (e : LinkError) (n : Link α) : Agrees P (throw e) n := by
  intro g hg a g' hm
  cases hm

theorem Agrees.mono {P' : α → Prop} {m n : Link α} (h : Agrees P m n) (hP : ∀ a, P a → P' a) :
    Agrees P' m n := by
  intro g hg a g' hm
  obtain ⟨hn, ha, hg'⟩ := h g hg a g' hm
  exact ⟨hn, hP a ha, hg'⟩

/-- Steps for the elements of a list. -/
theorem Agrees.mapM {f k : β → Link α} {bs : List β} (h : ∀ b ∈ bs, Agrees P (f b) (k b)) :
    Agrees (fun as => ∀ a ∈ as, P a) (bs.mapM f) (bs.mapM k) := by
  induction bs with
  | nil => exact .pure fun a ha => nomatch ha
  | cons b bs ih =>
      rw [List.mapM_cons, List.mapM_cons]
      refine (h b List.mem_cons_self).bind fun a ha => ?_
      refine (ih fun c hc => h c (List.mem_cons_of_mem _ hc)).bind fun as has => .pure fun c hc => ?_
      rcases List.mem_cons.mp hc with rfl | hc
      · exact ha
      · exact has c hc

theorem Agrees.external (name : String) : Agrees (fun _ => True) (external name) (external name) := by
  intro g hg a g' hm
  refine ⟨hm, trivial, ?_⟩
  obtain ⟨i, more, hrun, -⟩ := run_external name g
  cases hrun.symm.trans hm
  exact ⟨hg.loops, hg.snippets⟩

theorem Agrees.addLoop {l : Loop} (h : l.IsBasic) : Agrees (fun _ => True) (addLoop l) (addLoop l) := by
  intro g hg a g' hm
  cases hm
  refine ⟨rfl, trivial, fun k hk => ?_, hg.snippets⟩
  rcases List.mem_append.mp hk with hk | hk
  · exact hg.loops k hk
  · exact List.mem_singleton.mp hk ▸ h

theorem Agrees.addSnippet {s : Snippet} (h : s.IsBasic) :
    Agrees (fun _ => True) (addSnippet s) (addSnippet s) := by
  intro g hg a g' hm
  cases hm
  refine ⟨rfl, trivial, hg.loops, fun k hk => ?_⟩
  rcases List.mem_append.mp hk with hk | hk
  · exact hg.snippets k hk
  · exact List.mem_singleton.mp hk ▸ h

theorem Agrees.close (site : Site) (ns : Names) :
    Agrees (fun _ => True) (site.close ns) (site.close ns) := by
  refine (Agrees.mapM (P := fun _ => True) fun p _ => ?_).mono fun _ _ => trivial
  obtain ⟨name, source⟩ := p
  cases source with
  | outside => exact (Agrees.external name).bind fun i _ => .pure trivial
  | _ => exact .pure trivial

end Link

/-! ### Expressions and output -/

section Statements

variable {site : Site} (strict : Bool)

/-- Steps that do nothing. -/
theorem forM_eq_pure {α : Type} {as : List α} {f : α → Link Unit} (hf : ∀ a ∈ as, f a = pure ⟨⟩) :
    as.forM f = pure ⟨⟩ := by
  induction as with
  | nil => rfl
  | cons a as ih =>
      have hcons : (a :: as).forM f = f a >>= fun _ => as.forM f := rfl
      rw [hcons, hf a List.mem_cons_self, pure_bind, ih fun b hb => hf b (List.mem_cons_of_mem _ hb)]

/-- Nothing of the fragment is refused. -/
theorem Site.check_eq {e : Code} (h : e.isBasic = true) : site.check e = pure ⟨⟩ := by
  refine forM_eq_pure fun m hm => ?_
  have hbasic := e.isBasic_of_mem_walk h hm
  obtain ⟨inChoice, e⟩ := m
  cases inChoice with
  | true => rfl
  | false =>
      cases e with
      | filter name e args line =>
          obtain ⟨hparts, -⟩ := Bool.and_eq_true_iff.mp hbasic
          have hname := mem_filterNames (Bool.and_eq_true_iff.mp hparts).1
          simp only [hname]
          rfl
      | test name e args line =>
          obtain ⟨hparts, -⟩ := Bool.and_eq_true_iff.mp hbasic
          have hname := mem_testNames (Bool.and_eq_true_iff.mp hparts).1
          simp only [hname]
          rfl
      | _ => rfl

theorem Site.exprOn_eq (operand : Place) {e : Expr String} (h : e.isBasic = true) :
    site.exprOn operand e = pure (e.resolve site.env operand) := by
  unfold Site.exprOn
  dsimp only
  rw [Site.check_eq (e.isBasic_resolve site.env operand h), pure_bind]

theorem Site.expr_agrees {e : Expr String} (h : e.isBasic = true) :
    Link.Agrees (fun c => c.isBasic = true) (site.expr e) ({ site with strict }.expr e) := by
  unfold Site.expr
  rw [Site.exprOn_eq _ h, Site.exprOn_eq _ h]
  exact .pure (e.isBasic_resolve _ _ h)

theorem Site.output_agrees {pieces : List (Piece String)} (h : ∀ p ∈ pieces, p.isBasic = true) :
    Link.Agrees (fun ns => nodesBasic ns = true) (site.output pieces) ({ site with strict }.output pieces) := by
  unfold Site.output
  refine (Link.Agrees.mapM (P := fun n => n.isBasic = true) fun p hp => ?_).bind fun nodes hnodes => ?_
  · cases p with
    | data s => exact .pure rfl
    | print e =>
        have he := e.isBasic_resolve site.env site.nowhere (h _ hp)
        have htext : constantText? strict (e.resolve site.env site.nowhere) =
            constantText? site.strict (e.resolve site.env site.nowhere) := constantText?_eq _ _ he
        -- the second site differs in strictness alone, so its text for a constant is that of the first
        dsimp only
        have hnowhere : ({ site with strict } : Site).nowhere = site.nowhere := rfl
        rw [hnowhere, htext]
        cases constantText? site.strict (e.resolve site.env site.nowhere) with
        | none => exact .pure he
        | some r =>
            cases r with
            | ok s => exact .pure rfl
            | error f => exact .fails _ _
  · rw [forM_eq_pure fun n hn => ?_, forM_eq_pure fun n hn => ?_, pure_bind]
    · exact .pure (nodesBasic_iff.mpr hnodes)
    all_goals
      cases n with
      | print e => exact Site.check_eq (hnodes _ hn)
      | _ => rfl

/-! ### Loops and snippets -/

/-- Linking a snippet without parameters. -/
theorem linkSnippet_agrees {body : List Stmt} {line : Nat} {linkIn : Site → Link (List Node)}
    (hbody : ∀ site, Link.Agrees (fun ns => nodesBasic ns = true) (linkIn site) (linkIn { site with strict })) :
    Link.Agrees (fun _ => True) (linkSnippet site none [] [] body line linkIn)
      (linkSnippet { site with strict } none [] [] body line linkIn) := by
  have hrest : ∀ ns callerSlot namedSlot restSlot,
      Link.Agrees (fun _ => True)
        (do
          let scope ← site.close ns
          let defaults ← [].mapM (site.inner ns).expr
          let body ← linkIn (site.inner ns)
          addSnippet ⟨none, [], defaults, callerSlot, namedSlot, restSlot, scope, body⟩)
        (do
          let scope ← site.close ns
          let defaults ← [].mapM ({ site.inner ns with strict }).expr
          let body ← linkIn { site.inner ns with strict }
          addSnippet ⟨none, [], defaults, callerSlot, namedSlot, restSlot, scope, body⟩) := by
    intro ns callerSlot namedSlot restSlot
    refine (Link.Agrees.close site ns).bind fun scope _ => ?_
    rw [List.mapM_nil, List.mapM_nil, pure_bind, pure_bind]
    exact (hbody _).bind fun body hbody => .addSnippet ⟨rfl, rfl, hbody⟩
  unfold linkSnippet
  dsimp only
  split
  · rw [if_neg (by simp), if_neg (by simp)]
    exact hrest _ _ _ _
  · exact hrest _ _ _ _

theorem linkCondition_agrees {target : Target String} {test : Option (Expr String)}
    (htarget : target.isBasic = true) (htest : test.all Expr.isBasic = true) :
    Link.Agrees (fun c => ∀ s t e, c = some (s, t, e) → t.isBasic = true ∧ e.isBasic = true)
      (linkCondition site target test) (linkCondition { site with strict } target test) := by
  cases test with
  | none => exact .pure fun _ _ _ h => nomatch h
  | some t =>
      refine (Site.expr_agrees strict htest).bind fun code hcode => ?_
      refine (Link.Agrees.close site _).bind fun scope _ => .pure fun s t e h => ?_
      cases h
      exact ⟨target.isBasic_resolve _ htarget, hcode⟩

/-- Linking a loop, if its bodies are linked alike. -/
theorem linkRounds_agrees {counted recursive : Bool} {target : Target String} {source : Expr String}
    {test : Option (Scope × Target Place × Code)} {body otherwise : List Stmt}
    (htarget : target.isBasic = true) (hsource : source.isBasic = true)
    (htest : ∀ s t e, test = some (s, t, e) → t.isBasic = true ∧ e.isBasic = true)
    (hbody : ∀ site, Link.Agrees (fun ns => nodesBasic ns = true) (linkBody site body)
      (linkBody { site with strict } body))
    (hotherwise : ∀ site, Link.Agrees (fun ns => nodesBasic ns = true) (linkBody site otherwise)
      (linkBody { site with strict } otherwise)) :
    Link.Agrees (fun ns => nodesBasic ns = true)
      (linkRounds site counted target source test recursive body otherwise)
      (linkRounds { site with strict } counted target source test recursive body otherwise) := by
  refine (Site.expr_agrees strict hsource).bind fun source hsource => ?_
  refine (Link.Agrees.close site _).bind fun scope _ => ?_
  refine (hbody _).bind fun body hbody => ?_
  refine (Link.Agrees.close site _).bind fun otherwiseScope _ => ?_
  refine (hotherwise _).bind fun otherwise hotherwise => ?_
  refine (Link.Agrees.addLoop ⟨target.isBasic_resolve _ htarget, hsource, htest, hbody, hotherwise⟩).bind ?_
  exact fun _ _ => .pure rfl

/-! ### Statements -/

mutual

theorem linkStmt_agrees (site : Site) (s : Stmt) (h : s.isBasic = true) :
    Link.Agrees (fun ns => nodesBasic ns = true) (linkStmt site s) (linkStmt { site with strict } s) := by
  cases s with
  | output pieces => exact Site.output_agrees strict (List.all_eq_true.mp h)
  | choice test body more otherwise =>
      simp only [Stmt.isBasic, Bool.and_eq_true] at h
      obtain ⟨⟨⟨htest, hbody⟩, hmore⟩, hotherwise⟩ := h
      refine (Site.expr_agrees strict htest).bind fun test htest => ?_
      refine (linkBody_agrees _ body hbody).bind fun body hbody => ?_
      refine (linkBranches_agrees _ more hmore).bind fun more hmore => ?_
      refine (linkBody_agrees _ otherwise hotherwise).bind fun otherwise hotherwise => .pure ?_
      simp [nodesBasic, Node.isBasic, htest, hbody, hmore, hotherwise]
  | loop target source test recursive body otherwise line =>
      simp only [Stmt.isBasic, Bool.and_eq_true] at h
      obtain ⟨⟨⟨⟨htarget, hsource⟩, htest⟩, hbody⟩, hotherwise⟩ := h
      rw [linkStmt_loop, linkStmt_loop]
      refine (linkCondition_agrees strict htarget htest).bind fun condition hcondition => ?_
      split
      · exact (Link.Agrees.fails (P := fun _ => False) _ _).bind fun _ hfalse => hfalse.elim
      · exact linkRounds_agrees strict htarget hsource hcondition (fun site => linkBody_agrees site body hbody)
          fun site => linkBody_agrees site otherwise hotherwise
  | assign target e =>
      obtain ⟨htarget, he⟩ := Bool.and_eq_true_iff.mp h
      refine (Site.expr_agrees strict he).bind fun code hcode => .pure ?_
      simp [nodesBasic, Node.isBasic, target.isBasic_resolve _ htarget, hcode]
  | capture target filter body =>
      simp only [Stmt.isBasic, Bool.and_eq_true] at h
      obtain ⟨⟨htarget, hfilter⟩, hbody⟩ := h
      refine (Link.Agrees.close site _).bind fun scope _ => ?_
      refine (linkBody_agrees _ body hbody).bind fun body hbody => ?_
      cases filter with
      | none =>
          refine .pure ?_
          simp [nodesBasic, Node.isBasic, target.isBasic_resolve _ htarget, hbody]
      | some f =>
          dsimp only
          rw [Site.exprOn_eq _ hfilter, Site.exprOn_eq _ hfilter, pure_bind, pure_bind]
          refine .pure ?_
          simp [nodesBasic, Node.isBasic, target.isBasic_resolve _ htarget, hbody, f.isBasic_resolve _ _ hfilter]
  | clause kind body line =>
      exact (linkSnippet_agrees strict fun site => linkBody_agrees site body h).bind fun _ _ => .pure rfl
  | _ => cases h

theorem linkBody_agrees (site : Site) (body : List Stmt) (h : bodyBasic body = true) :
    Link.Agrees (fun ns => nodesBasic ns = true) (linkBody site body) (linkBody { site with strict } body) := by
  cases body with
  | nil => exact .pure rfl
  | cons s ss =>
      obtain ⟨hs, hss⟩ := Bool.and_eq_true_iff.mp h
      refine (linkStmt_agrees site s hs).bind fun ns hns => ?_
      refine (linkBody_agrees site ss hss).bind fun ms hms => .pure ?_
      rw [nodesBasic_append, hns, hms]
      rfl

theorem linkBranches_agrees (site : Site) (more : List (Expr String × List Stmt))
    (h : moreBasic more = true) :
    Link.Agrees (fun bs => branchesBasic bs = true) (linkBranches site more)
      (linkBranches { site with strict } more) := by
  cases more with
  | nil => exact .pure rfl
  | cons branch more =>
      obtain ⟨test, body⟩ := branch
      simp only [moreBasic, Bool.and_eq_true] at h
      obtain ⟨⟨htest, hbody⟩, hmore⟩ := h
      refine (Site.expr_agrees strict htest).bind fun test htest => ?_
      refine (linkBody_agrees site body hbody).bind fun body hbody => ?_
      refine (linkBranches_agrees site more hmore).bind fun more hmore => .pure ?_
      simp [branchesBasic, htest, hbody, hmore]

end

end Statements

/-! ### Templates -/

end SqlMapper.Template
