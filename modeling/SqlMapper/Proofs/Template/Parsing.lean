import SqlMapper.Proofs.Template.Outline
/-!
# SqlMapper.Proofs.Template.Parsing

An outline is parsed to one statement that writes its texts and the values of its variables
(`Outline.parse_source`), or to none if it is empty.

A name between printing marks passes through every rule for expressions, from the loosest operator to the
tightest. Each rule reads what the next one reads, since the mark behind the name is none of its operators; so
there is one lemma for each rule, with the same conclusion.
-/

namespace SqlMapper.Template

/-- What a parser stands on. -/
def ReaderState.kind (s : ReaderState) : TokenKind := (s.tokens.headD ⟨.eof, s.line⟩).kind

/-- Is a kind of token no fault? -/
def TokenKind.isSound : TokenKind → Bool
  | fault _ => false
  | _ => true

/-- A step that succeeds, and then another. -/
theorem run_bind_ok {σ ε α β : Type} {m : StateT σ (Except ε) α} {f : α → StateT σ (Except ε) β}
    {s s' : σ} {a : α} (h : m.run s = .ok (a, s')) : (m >>= f).run s = (f a).run s' := by
  rw [StateT.run_bind, h]
  rfl

/-- A step for each element, where none changes the state. -/
theorem run_mapM_of_forall {σ ε α β : Type} {f : α → StateT σ (Except ε) β} {h : α → β} {s : σ}
    {as : List α} (hf : ∀ a ∈ as, (f a).run s = .ok (h a, s)) : (as.mapM f).run s = .ok (as.map h, s) := by
  induction as with
  | nil => rfl
  | cons a as ih =>
      rw [List.mapM_cons, run_bind_ok (hf a List.mem_cons_self),
        run_bind_ok (ih fun b hb => hf b (List.mem_cons_of_mem _ hb))]
      rfl

theorem run_forM_of_forall {σ ε α : Type} {f : α → StateT σ (Except ε) PUnit} {s : σ} {as : List α}
    (hf : ∀ a ∈ as, (f a).run s = .ok (⟨⟩, s)) : (as.forM f).run s = .ok (⟨⟩, s) := by
  induction as with
  | nil => rfl
  | cons a as ih =>
      have hrest := ih fun b hb => hf b (List.mem_cons_of_mem _ hb)
      exact (run_bind_ok (hf a List.mem_cons_self)).trans hrest

namespace Reader

variable {s s' : ReaderState} {t : Token} {k : TokenKind} {ks : List TokenKind}

/-! ### Steps -/

theorem run_current (s : ReaderState) : current.run s = .ok (s.tokens.headD ⟨.eof, s.line⟩, s) := rfl

theorem run_kind (s : ReaderState) : kind.run s = .ok (s.kind, s) := rfl

theorem run_bound (s : ReaderState) : bound.run s = .ok (s.tokens.length + 1, s) := rfl

theorem run_checkFault (h : s.kind.isSound = true) : checkFault.run s = .ok ((), s) := by
  unfold checkFault
  rw [run_bind_ok (run_current s)]
  unfold ReaderState.kind at h
  split
  case _ reason line hcurrent =>
      rw [hcurrent] at h
      cases h
  case _ => rfl

theorem kind_eq_eof (h : s.tokens.map (·.kind) = []) : s.kind = .eof := by
  rw [List.map_eq_nil_iff] at h
  rw [ReaderState.kind, h]
  rfl

theorem kind_eq (h : s.tokens.map (·.kind) = k :: ks) : s.kind = k := by
  obtain ⟨t, ts, hts, rfl, -⟩ := List.map_eq_cons_iff.mp h
  rw [ReaderState.kind, hts]
  rfl

theorem isSound_kind (h : s.tokens.map (·.kind) = ks) (sound : ∀ k ∈ ks, k.isSound = true) :
    s.kind.isSound = true := by
  cases ks with
  | nil =>
      rw [kind_eq_eof h]
      rfl
  | cons k ks =>
      rw [kind_eq h]
      exact sound k List.mem_cons_self

/-- Moving on to what is no fault. -/
theorem run_advance (h : s.tokens.map (·.kind) = k :: ks) (sound : ∀ k ∈ ks, k.isSound = true) :
    ∃ t s', advance.run s = .ok (t, s') ∧ s'.tokens.map (·.kind) = ks ∧
      s'.tokens.length + 1 = s.tokens.length ∧ t.kind = k := by
  obtain ⟨t, ts, hts, hkind, hrest⟩ := List.map_eq_cons_iff.mp h
  have hcheck : checkFault.run { s with tokens := ts, line := t.line } = _ :=
    run_checkFault (isSound_kind hrest sound)
  refine ⟨t, { s with tokens := ts, line := t.line }, ?_, hrest, by rw [hts, List.length_cons], hkind⟩
  unfold advance
  rw [run_bind_ok (run_current s), hts]
  have htail : s.tokens.tail = ts := by rw [hts, List.tail_cons]
  have hmoved : (modify fun s : ReaderState => { s with tokens := s.tokens.tail, line := t.line } :
      Reader Unit).run s = .ok ((), { s with tokens := ts, line := t.line }) := by
    rw [← htail]
    rfl
  exact (run_bind_ok hmoved).trans (run_bind_ok hcheck)

theorem run_skipIf_of_not {p : TokenKind → Bool} (h : p s.kind = false) :
    (skipIf p).run s = .ok (false, s) := by
  unfold skipIf
  rw [run_bind_ok (run_kind s), h]
  rfl

theorem run_expect {p : TokenKind → Bool} {title : String} (h : p s.kind = true)
    (hadvance : advance.run s = .ok (t, s')) : (expect p title).run s = .ok (t, s') := by
  unfold expect
  unfold ReaderState.kind at h
  rw [run_bind_ok (run_current s), if_pos h]
  exact hadvance

/-! ### A name in every rule for expressions -/

theorem run_leftGrouped_of_none {operand : Reader Written}
    {op? : TokenKind → Option (Written → Written → Written)} {n : Nat} {left : Written}
    (h : op? s.kind = none) : (leftGrouped operand op? (n + 1) left).run s = .ok (left, s) := by
  unfold leftGrouped
  rw [run_bind_ok (run_kind s), h]
  rfl

/-- A rule for operators with two operands, where none of its operators stands behind the first operand. -/
theorem run_grouped {operand : Reader Written} {op? : TokenKind → Option (Written → Written → Written)}
    {e : Written} (hoperand : operand.run s = .ok (e, s')) (h : op? s'.kind = none) :
    (do leftGrouped operand op? (← bound) (← operand)).run s = .ok (e, s') := by
  rw [run_bind_ok (run_bound s), run_bind_ok hoperand]
  exact run_leftGrouped_of_none h

end Reader

open Reader

/-- A parser stands on a variable's name, and the mark that ends a tag stands behind it. -/
structure AtName (s s' : ReaderState) (x : String) : Prop where
  name : s.kind = .name x
  moves : ∃ t, advance.run s = .ok (t, s')
  ends : s'.kind = .printEnd ∨ s'.kind = .blockEnd
  isVariable : isVariable x = true

namespace AtName

variable {rules : Rules} {s s' : ReaderState} {x : String}

theorem not_constant (h : AtName s s' x) : constantWord? x = none := by
  have hx := h.isVariable
  unfold Template.isVariable at hx
  simp only [Bool.and_eq_true, Option.isNone_iff_eq_none] at hx
  exact hx.1.1.2

theorem ne_not (h : AtName s s' x) : x ≠ "not" := by
  have hx := h.isVariable
  unfold Template.isVariable at hx
  simp only [Bool.and_eq_true, bne_iff_ne] at hx
  exact hx.1.2

/-- What is no token that ends a tag does not stand behind the name. -/
theorem not_at_end (h : AtName s s' x) {p : TokenKind → Bool} (hprint : p .printEnd = false)
    (hblock : p .blockEnd = false) : p s'.kind = false := by
  rcases h.ends with hkind | hkind
  · rw [hkind, hprint]
  · rw [hkind, hblock]

/-- A rule for operators with two operands, if neither mark is one of its operators. -/
theorem grouped (h : AtName s s' x) {operand : Reader Written} {op? : TokenKind → Option (Written → Written → Written)}
    {e : Written} (hoperand : operand.run s = .ok (e, s')) (hprint : op? .printEnd = none)
    (hblock : op? .blockEnd = none) : (do leftGrouped operand op? (← bound) (← operand)).run s = .ok (e, s') := by
  refine run_grouped hoperand ?_
  rcases h.ends with hkind | hkind
  · rw [hkind, hprint]
  · rw [hkind, hblock]

theorem primary (h : AtName s s' x) : (primary rules).run s = .ok (.var x, s') := by
  have hkind : (s.tokens.headD ⟨.eof, s.line⟩).kind = .name x := h.name
  obtain ⟨t, hmoves⟩ := h.moves
  unfold Template.primary
  rw [run_bind_ok (run_current s), hkind]
  dsimp only
  rw [run_bind_ok hmoves, h.not_constant]
  rfl

/-- Nothing that stands behind a value stands here. -/
theorem postfixes (h : AtName s s' x) {n : Nat} {e : Written} :
    (postfixes rules (n + 1) e).run s' = .ok (e, s') := by
  unfold Template.postfixes
  rw [run_bind_ok (run_kind s')]
  rcases h.ends with hkind | hkind <;> rw [hkind] <;> rfl

theorem filtersAndTests (h : AtName s s' x) {n : Nat} {e : Written} :
    (filtersAndTests rules (n + 1) e).run s' = .ok (e, s') := by
  unfold Template.filtersAndTests
  rw [run_bind_ok (run_kind s')]
  rcases h.ends with hkind | hkind <;> rw [hkind] <;> rfl

theorem signed (h : AtName s s' x) : (signed rules true).run s = .ok (.var x, s') := by
  unfold Template.signed
  rw [run_bind_ok (run_kind s), h.name]
  dsimp only
  rw [run_bind_ok h.primary, run_bind_ok (run_bound s'), run_bind_ok h.postfixes, if_pos rfl,
    run_bind_ok (run_bound s'), h.filtersAndTests]

theorem power (h : AtName s s' x) : (power rules).run s = .ok (.var x, s') :=
  h.grouped h.signed (by rfl) (by rfl)

theorem product (h : AtName s s' x) : (product rules).run s = .ok (.var x, s') :=
  h.grouped h.power (by rfl) (by rfl)

theorem joined (h : AtName s s' x) : (joined rules).run s = .ok (.var x, s') := by
  have hmore : (joinedMore rules (s'.tokens.length + 1) [.var x]).run s' = .ok ([.var x], s') := by
    unfold joinedMore
    rw [run_bind_ok (run_skipIf_of_not (h.not_at_end rfl rfl))]
    rfl
  unfold Template.joined
  rw [run_bind_ok h.product, run_bind_ok (run_bound s'), run_bind_ok hmore]
  rfl

theorem sum (h : AtName s s' x) : (sum rules).run s = .ok (.var x, s') :=
  h.grouped h.joined (by rfl) (by rfl)

theorem compared (h : AtName s s' x) : (compared rules).run s = .ok (.var x, s') := by
  have hop : compareOp?.run s' = .ok (none, s') := by
    unfold compareOp?
    rw [run_bind_ok (run_kind s')]
    rcases h.ends with hkind | hkind <;> rw [hkind] <;> rfl
  have hmore : (comparisons rules (s'.tokens.length + 1) []).run s' = .ok ([], s') := by
    unfold comparisons
    rw [run_bind_ok hop]
    rfl
  unfold Template.compared
  rw [run_bind_ok h.sum, run_bind_ok (run_bound s'), run_bind_ok hmore]
  rfl

theorem negation (h : AtName s s' x) : (negation rules).run s = .ok (.var x, s') := by
  unfold Template.negation
  rw [run_bind_ok (run_skipIf_of_not (by rw [h.name]; simpa [TokenKind.isName] using h.ne_not.symm))]
  exact h.compared

theorem conjunction (h : AtName s s' x) : (conjunction rules).run s = .ok (.var x, s') :=
  h.grouped h.negation (by rfl) (by rfl)

theorem disjunction (h : AtName s s' x) : (disjunction rules).run s = .ok (.var x, s') :=
  h.grouped h.conjunction (by rfl) (by rfl)

theorem expression (h : AtName s s' x) (withChoice : Bool) :
    (expression rules withChoice).run s = .ok (.var x, s') := by
  have hchoices : ∀ n line, (choices rules (n + 1) (.var x) line).run s' = .ok (.var x, s') := by
    intro n line
    unfold choices
    rw [run_bind_ok (run_skipIf_of_not (h.not_at_end rfl rfl))]
    rfl
  unfold Template.expression
  rw [run_bind_ok (run_current s), run_bind_ok h.disjunction]
  cases withChoice with
  | false => rfl
  | true =>
      rw [if_pos rfl, run_bind_ok (run_bound s')]
      exact hchoices _ _

/-- One expression is no tuple. -/
theorem tupleOf (h : AtName s s' x) (withChoice : Bool) :
    (tupleOf (Template.expression rules withChoice) false).run s = .ok (.var x, s') := by
  have hends : tupleEnds.run s = .ok (false, s) := by
    unfold tupleEnds
    rw [run_bind_ok (run_kind s), h.name]
    rfl
  have helements : ∀ n, (tupleElements (Template.expression rules withChoice) (n + 1) [] false).run s =
      .ok (([.var x], false), s') := by
    intro n
    have hcomma : s'.kind.isSymbol .comma = false := h.not_at_end rfl rfl
    unfold tupleElements
    rw [if_neg (by simp), run_bind_ok hends, if_neg Bool.false_ne_true, run_bind_ok (h.expression withChoice)]
    dsimp only
    rw [run_bind_ok (run_kind s'), hcomma]
    rfl
  unfold Template.tupleOf
  rw [run_bind_ok (run_bound s), run_bind_ok (helements _)]
  rfl

end AtName

/-! ### Outlines -/

/-- The pieces of a text: none if it is empty. -/
def dataPieces {ν : Type} (cs : List Char) : List (Piece ν) :=
  if cs.isEmpty then [] else [.data (String.ofList cs)]

/-- The pieces that an outline writes. -/
def Outline.pieces : Outline → List (Piece String)
  | last cs _ => dataPieces cs
  | output cs x _ _ _ more => dataPieces cs ++ .print (.var x) :: more.pieces

/-- The statements that write pieces. -/
def outputOf (pieces : List (Piece String)) : List Stmt := if pieces.isEmpty then [] else [.output pieces]

theorem isSound_of_mem_dataKinds {cs : List Char} {k : TokenKind} (h : k ∈ dataKinds cs) :
    k.isSound = true := by
  unfold dataKinds at h
  split at h
  · cases h
  · rw [List.mem_singleton.mp h]
    rfl

theorem Outline.isSound_of_mem_kinds {o : Outline} {k : TokenKind} (h : k ∈ o.kinds) : k.isSound = true := by
  induction o with
  | last => exact isSound_of_mem_dataKinds h
  | output cs x _ _ _ more ih =>
      simp only [kinds, List.mem_append] at h
      rcases h with (htext | htag) | hmore
      · exact isSound_of_mem_dataKinds htext
      · simp only [List.mem_cons, List.not_mem_nil, or_false] at htag
        rcases htag with rfl | rfl | rfl <;> rfl
      · exact ih hmore

variable {r : StmtRules} {s : ReaderState} {ks : List TokenKind}

/-- At the end of the template, the pieces that were read make up a statement. -/
theorem run_statementsFrom_eof {n : Nat} {done : List (Piece String)} (h : s.kind = .eof) :
    (statementsFrom r none (n + 1) done []).run s = .ok (outputOf done.reverse, s) := by
  unfold statementsFrom
  rw [run_bind_ok (run_kind s), h]
  cases done with
  | nil => rfl
  | cons p done =>
      have hne : ¬ (p :: done).reverse.isEmpty = true := by simp
      rw [outputOf, if_neg hne]
      rfl

/-- Reading a text is reading on with its piece. -/
theorem run_statementsFrom_data {cs : List Char} {n : Nat} {done : List (Piece String)}
    (h : s.tokens.map (·.kind) = dataKinds cs ++ ks) (sound : ∀ k ∈ ks, k.isSound = true)
    (hn : s.tokens.length < n) :
    ∃ s' n', s'.tokens.map (·.kind) = ks ∧ s'.tokens.length < n' ∧
      (statementsFrom r none n done []).run s =
        (statementsFrom r none n' ((dataPieces cs).reverse ++ done) []).run s' := by
  unfold dataKinds at h
  unfold dataPieces
  split at h
  case isTrue hempty => exact ⟨s, n, h, hn, by rw [if_pos hempty]; rfl⟩
  case isFalse hempty =>
      obtain ⟨t, s', hmoves, hrest, hlength, -⟩ := run_advance h sound
      obtain ⟨n, rfl⟩ : ∃ m, n = m + 1 := ⟨n - 1, by omega⟩
      refine ⟨s', n, hrest, by omega, ?_⟩
      rw [if_neg hempty]
      rw [statementsFrom, run_bind_ok (run_kind s), kind_eq h]
      exact run_bind_ok hmoves

/-- Reading a printing tag is reading on with its variable. -/
theorem run_statementsFrom_print {x : String} {n : Nat} {done : List (Piece String)}
    (hx : isVariable x = true) (h : s.tokens.map (·.kind) = .printBegin :: .name x :: .printEnd :: ks)
    (sound : ∀ k ∈ ks, k.isSound = true) (hn : s.tokens.length < n) :
    ∃ s' n', s'.tokens.map (·.kind) = ks ∧ s'.tokens.length < n' ∧
      (statementsFrom r none n done []).run s =
        (statementsFrom r none n' (.print (.var x) :: done) []).run s' := by
  have soundEnd : ∀ k ∈ TokenKind.printEnd :: ks, k.isSound = true :=
    List.forall_mem_cons.mpr ⟨rfl, sound⟩
  obtain ⟨t₁, s₁, hopens, hname, hlength₁, -⟩ := run_advance h (List.forall_mem_cons.mpr ⟨rfl, soundEnd⟩)
  obtain ⟨t₂, s₂, hpasses, hend, hlength₂, -⟩ := run_advance hname soundEnd
  obtain ⟨t₃, s₃, hcloses, hrest, hlength₃, -⟩ := run_advance hend sound
  -- the rules for expressions see the name and the closing mark only
  have onName : AtName s₁ s₂ x := ⟨kind_eq hname, ⟨t₂, hpasses⟩, .inl (kind_eq hend), hx⟩
  have hvariable : (tupleOf r.expr false).run s₁ = .ok (.var x, s₂) := onName.tupleOf true
  obtain ⟨n, rfl⟩ : ∃ m, n = m + 1 := ⟨n - 1, by omega⟩
  refine ⟨s₃, n, hrest, by omega, ?_⟩
  rw [statementsFrom, run_bind_ok (run_kind s), kind_eq h]
  dsimp only
  rw [run_bind_ok hopens, run_bind_ok hvariable, run_bind_ok (run_expect (by rw [kind_eq hend]) hcloses)]

/-- The statements of an outline from its tokens. -/
theorem Outline.run_statementsFrom (o : Outline) {n : Nat} (done : List (Piece String))
    (h : s.tokens.map (·.kind) = o.kinds) (hn : s.tokens.length < n) :
    ∃ s', (statementsFrom r none n done []).run s = .ok (outputOf (done.reverse ++ o.pieces), s') := by
  induction o generalizing s n done with
  | last cs plain =>
      have htext : s.tokens.map (·.kind) = dataKinds cs ++ [] := by rw [h, kinds, List.append_nil]
      obtain ⟨s', n', hrest, hn', hread⟩ := run_statementsFrom_data (r := r) htext (by simp) hn
      obtain ⟨n', rfl⟩ : ∃ m, n' = m + 1 := ⟨n' - 1, by omega⟩
      refine ⟨s', ?_⟩
      rw [hread, run_statementsFrom_eof (kind_eq_eof hrest), List.reverse_append, List.reverse_reverse, pieces]
  | output cs x hx plain apart more ih =>
      have sound : ∀ k ∈ more.kinds, k.isSound = true := fun k hk => isSound_of_mem_kinds hk
      have soundTag : ∀ k ∈ .printBegin :: .name x :: .printEnd :: more.kinds, k.isSound = true :=
        List.forall_mem_cons.mpr ⟨rfl, List.forall_mem_cons.mpr ⟨rfl, List.forall_mem_cons.mpr ⟨rfl, sound⟩⟩⟩
      have htext : s.tokens.map (·.kind) =
          dataKinds cs ++ (.printBegin :: .name x :: .printEnd :: more.kinds) := by
        rw [h, kinds, List.append_assoc]
        rfl
      obtain ⟨s₁, n₁, htag, hn₁, hread₁⟩ := run_statementsFrom_data (r := r) htext soundTag hn
      obtain ⟨s₂, n₂, hmore, hn₂, hread₂⟩ := run_statementsFrom_print hx htag sound hn₁
      obtain ⟨s', hrest⟩ := ih _ hmore hn₂
      refine ⟨s', ?_⟩
      rw [hread₁, hread₂, hrest]
      simp [pieces]

/-- An outline is parsed to its pieces. -/
theorem Outline.parse_source (o : Outline) : parse o.source = .ok (outputOf o.prepared.pieces) := by
  have hkinds := o.kinds_tokens
  let s : ReaderState := { tokens := tokens o.source, line := 1, tags := [], awaited := [] }
  have hcheck : checkFault.run s = .ok ((), s) :=
    run_checkFault (isSound_kind hkinds fun k hk => isSound_of_mem_kinds hk)
  obtain ⟨s', hread⟩ := o.prepared.run_statementsFrom
    (r := ⟨Rules.ofDepth ((tokens o.source).length + 1), Body.ofDepth _ (tokens o.source).length⟩) (s := s)
    [] hkinds (Nat.lt_succ_self _)
  unfold parse
  dsimp only
  rw [run_bind_ok hcheck, Body.ofDepth, statements, run_bind_ok (run_bound s)]
  rw [hread]
  rfl

end SqlMapper.Template
