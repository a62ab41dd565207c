import SqlMapper.Proofs.Template.LinkedParts
import SqlMapper.Proofs.Template.Linking
import SqlMapper.Proofs.Template.OneName
/-!
# SqlMapper.Proofs.Template.Lookups

Which names the program of a template looks up outside. Linking a template and linking what is left of it look
up the same names, those apart that are lost (`mem_externals_iff`).

The two are compared step by step: steps of linking are alike at a name if, when both go through, they look up
the name both or not at all (`Link.Alike`).
-/

namespace SqlMapper.Template

/-! ### Steps of linking -/

namespace Link

variable {α β α' β' : Type} {x : String} {P Q : Prop}

/-- A step that goes through looks up a name exactly under a condition. -/
def LooksUp (x : String) (P : Prop) (m : Link α) : Prop :=
  ∀ (g : Gathered) (a : α) (g' : Gathered), m g = .ok (a, g') → (x ∈ g'.externals ↔ x ∈ g.externals ∨ P)

/-- Two steps that go through look up a name both or not at all. -/
def Alike (x : String) (m : Link α) (n : Link β) : Prop :=
  ∀ (g h : Gathered), (x ∈ g.externals ↔ x ∈ h.externals) →
    ∀ (a : α) (g' : Gathered) (b : β) (h' : Gathered), m g = .ok (a, g') → n h = .ok (b, h') →
      (x ∈ g'.externals ↔ x ∈ h'.externals)

theorem LooksUp.pure (a : α) : LooksUp x False (Pure.pure a : Link α) := by
  intro g b g' hm
  cases hm
  simp

theorem LooksUp.fails (e : LinkError) : LooksUp x P (throw e : Link α) := by
  intro g a g' hm
  cases hm

theorem LooksUp.mono {m : Link α} (h : LooksUp x P m) (hPQ : P ↔ Q) : LooksUp x Q m := by
  rwa [← propext hPQ]

theorem LooksUp.bind {m : Link α} {f : α → Link β} (h : LooksUp x P m) (hf : ∀ a, LooksUp x Q (f a)) :
    LooksUp x (P ∨ Q) (m >>= f) := by
  intro g b g'' hm
  obtain ⟨a, g', hfirst, hsecond⟩ := bind_apply_eq_ok_iff.mp hm
  rw [hf a g' b g'' hsecond, h g a g' hfirst, or_assoc]

/-- Steps for the elements of a list. -/
theorem LooksUp.mapM {f : β → Link α} {P : β → Prop} {bs : List β} (h : ∀ b ∈ bs, LooksUp x (P b) (f b)) :
    LooksUp x (∃ b ∈ bs, P b) (bs.mapM f) := by
  induction bs with
  | nil =>
      rw [List.mapM_nil]
      exact (LooksUp.pure _).mono (by simp)
  | cons b bs ih =>
      rw [List.mapM_cons]
      have hrest := ih fun c hc => h c (List.mem_cons_of_mem _ hc)
      exact ((h b List.mem_cons_self).bind fun a => hrest.bind fun as => .pure (a :: as)).mono (by simp)

/-- Steps that look up nothing, for the elements of a list. -/
theorem LooksUp.mapM_nothing {f : β → Link α} {bs : List β} (h : ∀ b ∈ bs, LooksUp x False (f b)) :
    LooksUp x False (bs.mapM f) :=
  (LooksUp.mapM h).mono (by simp)

theorem LooksUp.forM_nothing {f : β → Link Unit} {bs : List β} (h : ∀ b ∈ bs, LooksUp x False (f b)) :
    LooksUp x False (bs.forM f) := by
  induction bs with
  | nil => exact .pure _
  | cons b bs ih =>
      have hcons : (b :: bs).forM f = f b >>= fun _ => bs.forM f := rfl
      rw [hcons]
      exact ((h b List.mem_cons_self).bind fun _ => ih fun c hc => h c (List.mem_cons_of_mem _ hc)).mono (by simp)

theorem LooksUp.external (name : String) : LooksUp x (name = x) (external name) := by
  intro g i g' hm
  unfold Template.external at hm
  obtain ⟨g₁, g₂, hget, hrest⟩ := bind_apply_eq_ok_iff.mp hm
  cases hget
  cases hi : g.externals.idxOf? name with
  | some i =>
      rw [hi] at hrest
      cases hrest
      have hname : name ∈ g.externals := List.mem_of_getElem? (getElem?_of_idxOf? hi)
      exact ⟨Or.inl, fun h => h.elim (fun hx => hx) fun hx => hx ▸ hname⟩
  | none =>
      rw [hi] at hrest
      cases hrest
      simp [eq_comm]

theorem LooksUp.addLoop (l : Loop) : LooksUp x False (addLoop l) := by
  intro g a g' hm
  cases hm
  simp

theorem LooksUp.addSnippet (s : Snippet) : LooksUp x False (addSnippet s) := by
  intro g a g' hm
  cases hm
  simp

/-! ### Steps that are alike -/

theorem LooksUp.alike {m : Link α} {n : Link β} (hm : LooksUp x P m) (hn : LooksUp x Q n) (hPQ : P ↔ Q) :
    Alike x m n := by
  intro g h hgh a g' b h' hrun hrun'
  rw [hm g a g' hrun, hn h b h' hrun', hgh, hPQ]

/-- Steps that look up nothing are alike. -/
theorem LooksUp.nothing {m : Link α} {n : Link β} (hm : LooksUp x False m) (hn : LooksUp x False n) :
    Alike x m n :=
  hm.alike hn Iff.rfl

theorem Alike.pure (a : α) (b : β) : Alike x (Pure.pure a : Link α) (Pure.pure b : Link β) :=
  (LooksUp.pure a).nothing (.pure b)

theorem Alike.bind {m : Link α} {n : Link β} {f : α → Link α'} {k : β → Link β'} (h : Alike x m n)
    (hf : ∀ a b, Alike x (f a) (k b)) : Alike x (m >>= f) (n >>= k) := by
  intro g h₀ hgh a g'' b h'' hm hn
  obtain ⟨a', g', hfirst, hsecond⟩ := bind_apply_eq_ok_iff.mp hm
  obtain ⟨b', h', hfirst', hsecond'⟩ := bind_apply_eq_ok_iff.mp hn
  exact hf a' b' g' h' (h g h₀ hgh a' g' b' h' hfirst hfirst') a g'' b h'' hsecond hsecond'

/-- What a refusal is alike to does not matter. -/
theorem Alike.refuse_left (reason : String) (line : Nat) (f : α → Link α') (n : Link β) :
    Alike x (refuse reason line >>= f) n := by
  intro g h hgh a g' b h' hm
  cases hm

theorem Alike.refuse_right (reason : String) (line : Nat) (m : Link α) (k : β → Link β') :
    Alike x m (refuse reason line >>= k) := by
  intro g h hgh a g' b h' hm hn
  cases hn

theorem Alike.ite_left {c : Prop} [Decidable c] {m m' : Link α} {n : Link β} (h : Alike x m n)
    (h' : Alike x m' n) : Alike x (if c then m else m') n := by
  split
  · exact h
  · exact h'

theorem Alike.ite_right {c : Prop} [Decidable c] {m : Link α} {n n' : Link β} (h : Alike x m n)
    (h' : Alike x m n') : Alike x m (if c then n else n') := by
  split
  · exact h
  · exact h'

end Link

/-! ### Sites -/

/-- Two sites know the same of a name. -/
structure Site.Alike (x : String) (site site' : Site) : Prop where
  env : site.env.has x = site'.env.has x
  stored : site.stored.contains x = site'.stored.contains x

section Sites

variable {x : String} {site site' : Site} {ns ns' : Names} {strict : Bool}

theorem Site.Alike.inner (h : site.Alike x site') (hns : ns.Alike x ns') :
    (site.inner ns).Alike x (site'.inner ns') := by
  refine ⟨?_, ?_⟩
  · have henv := h.env
    have hhas := hns.has_eq
    unfold Enclosing.has Names.has at *
    simp only [Site.inner, List.any_cons, henv, hhas]
  · have hstored := h.stored
    simp only [Site.inner, List.contains_append, hns.contains_stored_eq, hstored]

/-- Is a name looked up outside when a scope is entered? -/
theorem Site.close_looksUp (site : Site) (ns : Names) :
    Link.LooksUp x (∃ p ∈ ns.slots, p.1 = x ∧ p.2 = .outside) (site.close ns) := by
  refine .mapM fun p _ => ?_
  obtain ⟨name, source⟩ := p
  cases source with
  | outside => exact ((Link.LooksUp.external name).bind fun i => .pure _).mono (by simp)
  | _ => exact (Link.LooksUp.pure _).mono (by simp)

theorem mem_slots_iff {p : String × Source → Prop} :
    (∃ q ∈ ns.slots, q.1 = x ∧ p q) ↔ ∃ q ∈ ns.slots.filter (·.1 == x), p q := by
  simp only [List.mem_filter, beq_iff_eq, and_assoc]

theorem Site.close_alike (hns : ns.Alike x ns') (site site' : Site) :
    Link.Alike x (site.close ns) (site'.close ns') :=
  (site.close_looksUp ns).alike (site'.close_looksUp ns') (by rw [mem_slots_iff, mem_slots_iff, hns.slots])

/-- Is a name looked up outside when a block is entered? -/
theorem Site.closeBlock_looksUp (site : Site) (seesLocals : Bool) (ns : Names) :
    Link.LooksUp x
      (∃ p ∈ ns.slots, p.1 = x ∧
        (p.2 ≠ .given ∧ p.2 ≠ .itself ∧ (seesLocals && site.stored.contains x) = false))
      (site.closeBlock seesLocals ns) := by
  refine .mapM fun p _ => ?_
  obtain ⟨name, source⟩ := p
  have hexternal : ∀ f : Nat → Origin, Link.LooksUp x (name = x) (do return f (← external name)) := fun f =>
    ((Link.LooksUp.external name).bind fun i => .pure (f i)).mono (by simp)
  cases source with
  | given | itself => exact (Link.LooksUp.pure _).mono (by simp)
  | outside | enclosing | unset =>
      dsimp only
      split
      case isTrue hlocal =>
          -- the block sees the name around it, and has no need to look it up
          refine (Link.LooksUp.pure _).mono (iff_of_false not_false ?_)
          rintro ⟨rfl, -, -, hfree⟩
          rw [hlocal] at hfree
          cases hfree
      case isFalse hlocal =>
          have hfree : name = x → (seesLocals && site.stored.contains x) = false :=
            fun hx => hx ▸ Bool.eq_false_iff.mpr hlocal
          refine Link.LooksUp.mono ?_ ⟨fun hx => ⟨hx, by simp, by simp, hfree hx⟩, And.left⟩
          split
          · split
            · exact hexternal _
            · exact hexternal _
          · exact hexternal _

theorem Site.Alike.closeBlock (h : site.Alike x site') (hns : ns.Alike x ns') (seesLocals : Bool) :
    Link.Alike x (site.closeBlock seesLocals ns) (site'.closeBlock seesLocals ns') :=
  (site.closeBlock_looksUp seesLocals ns).alike (site'.closeBlock_looksUp seesLocals ns')
    (by rw [mem_slots_iff, mem_slots_iff, hns.slots, h.stored])

/-! ### Expressions and output -/

/-- Refusing filters and tests looks up nothing. -/
theorem Site.check_looksUp (site : Site) (e : Code) : Link.LooksUp x False (site.check e) := by
  refine .forM_nothing fun m _ => ?_
  obtain ⟨inChoice, e⟩ := m
  cases inChoice with
  | true => exact .pure _
  | false =>
      cases e with
      | filter name | test name =>
          simp only [Bool.false_eq_true, if_false]
          split
          · exact .pure _
          · exact .fails _
      | _ => exact .pure _

theorem Site.exprOn_looksUp (site : Site) (operand : Place) (e : Expr String) :
    Link.LooksUp x False (site.exprOn operand e) :=
  ((site.check_looksUp _).bind fun _ => .pure _).mono (by simp)

theorem Site.expr_looksUp (site : Site) (e : Expr String) : Link.LooksUp x False (site.expr e) :=
  site.exprOn_looksUp site.nowhere e

theorem Site.output_looksUp (site : Site) (pieces : List (Piece String)) :
    Link.LooksUp x False (site.output pieces) := by
  unfold Site.output
  refine ((Link.LooksUp.mapM_nothing fun p _ => ?_).bind fun nodes => ?_).mono (or_self_iff ..)
  · cases p with
    | data s => exact .pure _
    | print e =>
        dsimp only
        split
        · exact .pure _
        · exact .fails _
        · exact .pure _
  · refine ((Link.LooksUp.forM_nothing fun n _ => ?_).bind fun _ => .pure nodes).mono (or_self_iff ..)
    cases n with
    | print code => exact site.check_looksUp code
    | _ => exact .pure _

/-! ### Snippets and loops -/

theorem snippetNames_alike {outer outer' : Enclosing} (houter : outer.has x = outer'.has x)
    (params : List String) {defaults : List (Expr String)} {body : List Stmt}
    (hdefaults : x ∉ defaults.flatMap (Expr.lost strict)) (hbody : x ∉ lostIn strict body) :
    (snippetNames outer params defaults body).Alike x
      (snippetNames outer' params (defaults.map (Expr.folded strict)) (foldBody strict body)) := by
  unfold snippetNames
  dsimp only
  refine .foldl_of_filter_eq (fun y => y) (fun y ns hy => Names.give_skip hy ns)
    (fun y ns hy => Names.give_skip hy ns) (fun y ns ns' _ h => h.give y) ?_ ?_
  · rw [List.filter_comm, List.filter_comm (· == x)]
    refine List.filter_congr fun y hy => ?_
    have hyx : y = x := by simpa using (List.mem_filter.mp hy).2
    rw [hyx, firstRead_foldBody hbody]
  · refine Names.ofBody_alike houter body hbody ?_
    rw [List.foldl_map]
    refine Names.Alike.foldl (fun e he ns ns' h => ?_) (.foldl (fun p _ ns ns' h => h.give p) (.refl _))
    exact h.readAll houter fun hx => hdefaults (List.mem_flatMap.mpr ⟨e, he, hx⟩)

/-- Linking a snippet, if its body is linked alike. -/
theorem linkSnippet_alike (h : site.Alike x site') (name name' : Option String) (params : List String)
    {defaults : List (Expr String)} {body : List Stmt} (line : Nat) {linkIn linkIn' : Site → Link (List Node)}
    (hdefaults : x ∉ defaults.flatMap (Expr.lost strict)) (hbody : x ∉ lostIn strict body)
    (hlink : ∀ site site' : Site, site.Alike x site' → Link.Alike x (linkIn site) (linkIn' site')) :
    Link.Alike x (linkSnippet site name params defaults body line linkIn)
      (linkSnippet site' name' params (defaults.map (Expr.folded strict)) (foldBody strict body) line linkIn') := by
  have hnames := snippetNames_alike h.env params hdefaults hbody
  unfold linkSnippet
  generalize snippetNames site.env params defaults body = ns at hnames ⊢
  generalize snippetNames site'.env params (defaults.map (Expr.folded strict)) (foldBody strict body) = ns'
    at hnames ⊢
  have hrest : ∀ callerSlot callerSlot' namedSlot namedSlot' restSlot restSlot',
      Link.Alike x
        (do
          let scope ← site.close ns
          let defaults ← defaults.mapM (site.inner ns).expr
          let body ← linkIn (site.inner ns)
          addSnippet ⟨name, params, defaults, callerSlot, namedSlot, restSlot, scope, body⟩)
        (do
          let scope ← site'.close ns'
          let defaults ← (defaults.map (Expr.folded strict)).mapM (site'.inner ns').expr
          let body ← linkIn' (site'.inner ns')
          addSnippet ⟨name', params, defaults, callerSlot', namedSlot', restSlot', scope, body⟩) := by
    intro callerSlot callerSlot' namedSlot namedSlot' restSlot restSlot'
    refine (Site.close_alike hnames site site').bind fun _ _ => ?_
    refine ((Link.LooksUp.mapM_nothing fun e _ => Site.expr_looksUp _ e).nothing
      (.mapM_nothing fun e _ => Site.expr_looksUp _ e)).bind fun _ _ => ?_
    refine (hlink _ _ (h.inner hnames)).bind fun _ _ => ?_
    exact (Link.LooksUp.addSnippet _).nothing (.addSnippet _)
  -- either side may refuse, and then there is nothing to compare
  refine .ite_left (.ite_left (.refuse_left _ _ _ _) ?_) ?_
  all_goals
    exact .ite_right (.ite_right (.refuse_right _ _ _ _) (hrest _ _ _ _ _ _)) (hrest _ _ _ _ _ _)

theorem loopNames_alike (h : site.Alike x site') {counted counted' : Bool}
    (hcounted : x = "loop" → counted = counted') (target : Target String) {body : List Stmt}
    (hbody : x ∉ lostIn strict body) :
    (loopNames site counted target body).Alike x (loopNames site' counted' target (foldBody strict body)) := by
  refine Names.ofBody_alike h.env body hbody (.giveTarget ?_ target)
  by_cases hx : x = "loop"
  · rw [hcounted hx]
    exact .refl _
  · have hgive : ∀ c : Bool, (if c then Names.give "loop" {} else {} : Names).Alike x {} := by
      intro c
      cases c with
      | true => exact Names.give_skip (Ne.symm hx) {}
      | false => exact .refl _
    exact (hgive counted).trans (hgive counted').symm

theorem linkCondition_alike (h : site.Alike x site') (target : Target String) {test : Option (Expr String)}
    (htest : x ∉ test.toList.flatMap (Expr.lost strict)) :
    Link.Alike x (linkCondition site target test) (linkCondition site' target (test.map (Expr.folded strict))) := by
  cases test with
  | none => exact .pure _ _
  | some t =>
      have hread := ((Names.Alike.refl {}).giveTarget target).readAll h.env (e := t) (by simpa using htest)
      refine ((Site.expr_looksUp _ _).nothing (Site.expr_looksUp _ _)).bind fun _ _ => ?_
      exact (Site.close_alike hread site site').bind fun _ _ => .pure _ _

/-- Linking a loop, if its bodies are linked alike. -/
theorem linkRounds_alike (h : site.Alike x site') {counted counted' : Bool}
    (hcounted : x = "loop" → counted = counted') (target : Target String) (source source' : Expr String)
    (test test' : Option (Scope × Target Place × Code)) (recursive : Bool) {body otherwise : List Stmt}
    (hbody : x ∉ lostIn strict body) (hotherwise : x ∉ lostIn strict otherwise)
    (hlink : ∀ site site' : Site, site.Alike x site' →
      Link.Alike x (linkBody site body) (linkBody site' (foldBody strict body)))
    (hlink' : ∀ site site' : Site, site.Alike x site' →
      Link.Alike x (linkBody site otherwise) (linkBody site' (foldBody strict otherwise))) :
    Link.Alike x (linkRounds site counted target source test recursive body otherwise)
      (linkRounds site' counted' target source' test' recursive (foldBody strict body)
        (foldBody strict otherwise)) := by
  have hnames := loopNames_alike h hcounted target hbody
  have helse := Names.ofBody_alike h.env otherwise hotherwise (.refl {})
  refine ((site.expr_looksUp _).nothing (site'.expr_looksUp _)).bind fun _ _ => ?_
  refine (Site.close_alike hnames site site').bind fun _ _ => ?_
  refine (hlink _ _ (h.inner hnames)).bind fun _ _ => ?_
  refine (Site.close_alike helse site site').bind fun _ _ => ?_
  refine (hlink' _ _ (h.inner helse)).bind fun _ _ => ?_
  exact ((Link.LooksUp.addLoop _).nothing (.addLoop _)).bind fun _ _ => .pure _ _

/-! ### Statements -/

/-- Expressions are linked without looking anything up. -/
theorem expr_alike (site site' : Site) (e e' : Expr String) : Link.Alike x (site.expr e) (site'.expr e') :=
  (site.expr_looksUp e).nothing (site'.expr_looksUp e')

theorem Site.Alike.inChoice (h : site.Alike x site') (b b' : Bool) :
    { site with inChoice := b }.Alike x { site' with inChoice := b' } := ⟨h.env, h.stored⟩

theorem outermostNames_alike {body : List Stmt} (hx : x ∉ lostIn strict body) :
    (outermostNames body).Alike x (outermostNames (foldBody strict body)) := by
  refine Names.ofBody_alike rfl body hx ?_
  by_cases hself : x = "self"
  · rw [← hself, firstRead_foldBody hx]
    exact .refl _
  · have hput : ∀ c : Bool, (if c then ({} : Names).put "self" .itself else {}).Alike x {} := by
      intro c
      cases c with
      | true => exact Names.put_skip (Ne.symm hself) .itself {}
      | false => exact .refl _
    exact (hput _).trans (hput _).symm

/-- Sites in scopes that no other encloses. -/
theorem Site.Alike.outermost (hns : ns.Alike x ns') (root root' : Names) (b b' s s' : Bool) :
    Site.Alike x ⟨[ns.names], ns.stored, root, b, s⟩ ⟨[ns'.names], ns'.stored, root', b', s'⟩ := by
  have hhas := hns.has_eq
  refine ⟨?_, hns.contains_stored_eq⟩
  unfold Enclosing.has Names.has at *
  simp only [List.any_cons, List.any_nil, hhas]

mutual

theorem linkStmt_alike {site site' : Site} (h : site.Alike x site') (s : Stmt) (hx : x ∉ s.lost strict) :
    Link.Alike x (linkStmt site s) (linkStmt site' (s.folded strict)) := by
  cases s with
  | output pieces =>
      rw [Stmt.folded]
      exact (site.output_looksUp _).nothing (site'.output_looksUp _)
  | choice test body more otherwise =>
      simp only [Stmt.lost, List.mem_append, not_or] at hx
      obtain ⟨⟨⟨-, hbody⟩, hmore⟩, hotherwise⟩ := hx
      have hsoft := h.inChoice true true
      rw [Stmt.folded]
      refine (expr_alike _ _ _ _).bind fun _ _ => ?_
      refine (linkBody_alike hsoft body hbody).bind fun _ _ => ?_
      refine (linkBranches_alike hsoft more hmore).bind fun _ _ => ?_
      exact (linkBody_alike hsoft otherwise hotherwise).bind fun _ _ => .pure _ _
  | loop target source test recursive body otherwise line =>
      have hblocks := Stmt.hasSeeingBlock_folded hx
      simp only [Stmt.lost, List.mem_append, not_or] at hx
      obtain ⟨⟨⟨-, htest⟩, hbody⟩, hotherwise⟩ := hx
      rw [Stmt.folded] at hblocks
      rw [Stmt.folded, linkStmt_loop, linkStmt_loop]
      refine (linkCondition_alike h target htest).bind fun condition condition' => ?_
      refine .ite_left (.refuse_left _ _ _ _) (.ite_right (.refuse_right _ _ _ _) ?_)
      -- rounds are counted if `loop` is read: that is the same on both sides only where this name is not lost
      exact linkRounds_alike h (fun hloop => by rw [hblocks, ← hloop, firstRead_foldBody hbody]) target source
        (source.folded strict) condition condition' recursive hbody hotherwise
        (fun _ _ h => linkBody_alike h body hbody) fun _ _ h => linkBody_alike h otherwise hotherwise
  | assign target e => exact (expr_alike _ _ _ _).bind fun _ _ => .pure _ _
  | capture target filter body =>
      simp only [Stmt.lost, List.mem_append, not_or] at hx
      have hnames := Names.ofBody_alike h.env body hx.2 (.refl {})
      rw [Stmt.folded]
      refine (Site.close_alike hnames site site').bind fun _ _ => ?_
      refine (linkBody_alike (h.inner hnames) body hx.2).bind fun _ _ => ?_
      cases filter with
      | none => exact .pure _ _
      | some f =>
          exact ((Site.exprOn_looksUp _ _ _).nothing (Site.exprOn_looksUp _ _ _)).bind fun _ _ => .pure _ _
  | withVars bindings body =>
      simp only [Stmt.lost, List.mem_append, not_or] at hx
      have hgiven : (bindings.foldl (fun ns (t, _) => ns.giveTarget t) ({} : Names)).Alike x
          ((bindings.map fun (t, e) => (t, e.folded strict)).foldl (fun ns (t, _) => ns.giveTarget t) {}) := by
        rw [List.foldl_map]
        exact .foldl (fun b _ ns ns' h => h.giveTarget b.1) (.refl {})
      have hnames := Names.ofBody_alike h.env body hx.2 hgiven
      rw [Stmt.folded]
      refine (Site.close_alike hnames site site').bind fun _ _ => ?_
      refine ((Link.LooksUp.mapM_nothing fun b _ => ?_).nothing (.mapM_nothing fun b _ => ?_)).bind fun _ _ => ?_
      · exact ((site.expr_looksUp _).bind fun _ => .pure _).mono (or_self_iff ..)
      · exact ((site'.expr_looksUp _).bind fun _ => .pure _).mono (or_self_iff ..)
      · exact (linkBody_alike (h.inner hnames) body hx.2).bind fun _ _ => .pure _ _
  | define name params defaults body line =>
      simp only [Stmt.lost, List.mem_append, not_or] at hx
      rw [Stmt.folded]
      exact (linkSnippet_alike h _ _ params line hx.1 hx.2 fun _ _ h => linkBody_alike h body hx.2).bind
        fun _ _ => .pure _ _
  | callBlock params defaults call body line =>
      simp only [Stmt.lost, List.mem_append, not_or] at hx
      rw [Stmt.folded]
      refine (linkSnippet_alike h _ _ params line hx.1.1 hx.2 fun _ _ h => linkBody_alike h body hx.2).bind
        fun _ _ => ?_
      exact (expr_alike _ _ _ _).bind fun _ _ => .pure _ _
  | clause kind body line =>
      rw [Stmt.folded]
      exact (linkSnippet_alike h none none [] line (by simp) hx fun _ _ h => linkBody_alike h body hx).bind
        fun _ _ => .pure _ _
  | filterBlock filter body =>
      simp only [Stmt.lost, List.mem_append, not_or] at hx
      have hnames := (Names.ofBody_alike h.env body hx.2 (.refl {})).readAll h.env hx.1
      rw [Stmt.folded]
      refine (Site.close_alike hnames site site').bind fun _ _ => ?_
      refine (linkBody_alike (h.inner hnames) body hx.2).bind fun _ _ => ?_
      exact ((Site.exprOn_looksUp _ _ _).nothing (Site.exprOn_looksUp _ _ _)).bind fun _ _ => .pure _ _
  | escaping value body =>
      simp only [Stmt.lost, List.mem_append, not_or] at hx
      have hnames := Names.ofBody_alike h.env body hx.2 ((Names.Alike.refl {}).readAll h.env hx.1)
      rw [Stmt.folded]
      refine (Site.close_alike hnames site site').bind fun _ _ => ?_
      refine (expr_alike _ _ _ _).bind fun _ _ => ?_
      exact (linkBody_alike (h.inner hnames) body hx.2).bind fun _ _ => .pure _ _
  | block name seesLocals required body line =>
      have hnames := outermostNames_alike hx
      rw [Stmt.folded]
      refine (h.closeBlock hnames seesLocals).bind fun _ _ => ?_
      exact (linkBody_alike (.outermost hnames _ _ _ _ _ _) body hx).bind fun _ _ => .pure _ _
  | foreign kind template names => exact (expr_alike _ _ _ _).bind fun _ _ => .pure _ _

theorem linkBody_alike {site site' : Site} (h : site.Alike x site') (body : List Stmt)
    (hx : x ∉ lostIn strict body) : Link.Alike x (linkBody site body) (linkBody site' (foldBody strict body)) := by
  cases body with
  | nil => exact .pure _ _
  | cons s ss =>
      simp only [lostIn, List.mem_append, not_or] at hx
      rw [foldBody]
      refine (linkStmt_alike h s hx.1).bind fun _ _ => ?_
      exact (linkBody_alike h ss hx.2).bind fun _ _ => .pure _ _

theorem linkBranches_alike {site site' : Site} (h : site.Alike x site')
    (more : List (Expr String × List Stmt)) (hx : x ∉ lostInBranches strict more) :
    Link.Alike x (linkBranches site more) (linkBranches site' (foldBranches strict more)) := by
  cases more with
  | nil => exact .pure _ _
  | cons branch more =>
      obtain ⟨test, body⟩ := branch
      simp only [lostInBranches, List.mem_append, not_or] at hx
      rw [foldBranches]
      refine (expr_alike _ _ _ _).bind fun _ _ => ?_
      refine (linkBody_alike h body hx.1.2).bind fun _ _ => ?_
      exact (linkBranches_alike h more hx.2).bind fun _ _ => .pure _ _

end

end Sites

end SqlMapper.Template
