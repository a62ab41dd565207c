import SqlMapper.Proofs.Template.GuardedClause
import SqlMapper.Proofs.Template.Rendering
/-!
# SqlMapper.Proofs.Template.Composition

Clauses are composed of the texts whose variables are true (`clause_composes`): whatever the truth of the variables,
the clause vanishes if all are false, and otherwise its keyword stands before the texts of the true ones, joined.

A clause is a snippet of the template, so what a snippet is given by whoever calls it goes before a parameter of the same
name. Nobody gives a clause anything: a text for one of these names is never written (`not_composes`).
-/

namespace SqlMapper.Template

variable {kind : ClauseKind}

/-! ### Running a clause -/

section Run

variable {ctx : Context} {s : Store} {slots : List (Option Value)} {place : String → Place} {b : String → Bool}

/-- The texts whose variables are true, one after the other. -/
def chosen (b : String → Bool) (texts : List (String × String)) (out : String) : String :=
  texts.foldl (fun out e => out ++ if b e.1 then e.2 else "") out

theorem run_exec_text {fuel : Nat} {frames : Frames} (d : String) :
    (exec ctx (fuel + 1) frames [.text d]).run s = .ok (d, s) := by
  have hrun : (exec ctx (fuel + 1) frames [.text d]).run s = .ok ("" ++ d, s) := rfl
  rwa [String.empty_append] at hrun

/-- The texts of a clause in its frame. -/
theorem run_exec_choices {fuel ref : Nat} {outer : Frames} {texts : List (String × String)}
    (hframe : s.cells[ref]? = some (.frame slots))
    (hv : ∀ x ∈ guardsOf texts, (place x).depth = 0 ∧
      ((slots[(place x).slot]?).join.getD (ctx.absent (.variable (place x).name))).truth = .ok (b x)) :
    (exec ctx (fuel + 2) (ref :: outer) (texts.map (choiceNode place))).run s = .ok (chosen b texts "", s) := by
  rw [exec]
  refine run_execAll_map fun e he => ?_
  obtain ⟨hdepth, htruth⟩ := hv e.1 (List.mem_map_of_mem he)
  have htest : (eval ctx (fuel + 1) (ref :: outer) (.var (place e.1))).run s = .ok (_, s) :=
    run_eval_var hframe hdepth
  have htext : (exec ctx (fuel + 1) (ref :: outer) [.text e.2]).run s = .ok (e.2, s) := run_exec_text e.2
  unfold execNode choiceNode execChoice
  rw [run_bind_ok htest, htruth]
  cases b e.1 with
  | true => exact htext
  | false => rfl

/-- A snippet that nothing is given to, run in a frame of its own. -/
theorem run_invoke_plain {fuel index : Nat} {outer : Frames} {numbers : List Nat} {body : List Node} {text : String}
    {s' : Store} (hsnippet : ctx.program.snippets[index]? = some (plainSnippet numbers body))
    (hbody : (exec ctx fuel (s.cells.size :: outer) body).run
      { cells := s.cells.push (.frame (numbers.map fun i => (ctx.outside[i]?).join)) } = .ok (text, s')) :
    (invoke ctx ⟨eval ctx fuel, exec ctx fuel⟩ index outer {}).run s = .ok (.str text, s') := by
  let below : Meaning := ⟨eval ctx fuel, exec ctx fuel⟩
  have hfill : (fillParams ctx below (plainSnippet numbers body) s.cells.size (s.cells.size :: outer) {}).run
      { cells := s.cells.push (.frame (numbers.map fun i => (ctx.outside[i]?).join)) } = .ok (⟨⟩, _) := rfl
  unfold invoke
  rw [hsnippet]
  exact (run_bind_ok (run_enter outer numbers s)).trans
    ((run_bind_ok hfill).trans ((run_bind_ok hbody).trans rfl))

/-- A program that is a clause. -/
theorem run_clause {fuel : Nat} {numbers : List Nat} {texts : List (String × String)}
    (hscope : ctx.program.scope = []) (hbody : ctx.program.body = [.clause kind 0])
    (hsnippets : ctx.program.snippets = [plainSnippet numbers (texts.map (choiceNode place))])
    (hv : ∀ x ∈ guardsOf texts, (place x).depth = 0 ∧ ∃ i, numbers[(place x).slot]? = some i ∧
      (((ctx.outside[i]?).join).getD (ctx.absent (.variable (place x).name))).truth = .ok (b x)) :
    ctx.run (fuel + 3) = .ok (clauseText kind (chosen b texts "")) := by
  let slots := numbers.map fun i => (ctx.outside[i]?).join
  have hslots : ∀ x ∈ guardsOf texts, (place x).depth = 0 ∧
      ((slots[(place x).slot]?).join.getD (ctx.absent (.variable (place x).name))).truth = .ok (b x) := by
    intro x hx
    obtain ⟨hdepth, i, hi, htruth⟩ := hv x hx
    exact ⟨hdepth, by simpa [slots, hi] using htruth⟩
  have htexts : (exec ctx (fuel + 2) [1, 0] (texts.map (choiceNode place))).run
      { cells := #[.frame [], .frame slots] } = .ok (chosen b texts "", { cells := #[.frame [], .frame slots] }) :=
    run_exec_choices rfl hslots
  have hinvoke : (invoke ctx ⟨eval ctx (fuel + 2), exec ctx (fuel + 2)⟩ 0 [0] {}).run { cells := #[.frame []] } =
      .ok (.str (chosen b texts ""), { cells := #[.frame [], .frame slots] }) :=
    run_invoke_plain (by rw [hsnippets]; rfl) htexts
  have hnode : (execNode ctx ⟨eval ctx (fuel + 2), exec ctx (fuel + 2)⟩ [0] (.clause kind 0)).run
      { cells := #[.frame []] } =
        .ok (clauseText kind (chosen b texts ""), { cells := #[.frame [], .frame slots] }) :=
    (run_bind_ok hinvoke).trans rfl
  have hexec : (exec ctx (fuel + 3) [0] [.clause kind 0]).run { cells := #[.frame []] } =
      .ok ("" ++ clauseText kind (chosen b texts ""), { cells := #[.frame [], .frame slots] }) :=
    (run_bind_ok (run_bind_ok hnode)).trans rfl
  have hwhole : (do
      let root ← Scope.enter ctx [] []
      exec ctx (fuel + 3) [root] [.clause kind 0] : Run String) {} = _ :=
    (run_bind_ok (run_enter [] [] {})).trans hexec
  unfold Context.run
  rw [hscope, hbody]
  dsimp only
  rw [hwhole, String.empty_append]

end Run

/-! ### Clauses and their texts -/

/-- What a variable stands for in a rendering. -/
def valueOf (t : Template) (params : Params) (x : String) : Value :=
  (t.lookup params x).getD (.absent t.strict (.variable x))

/-- The texts whose variables are true. -/
def enabled (b : String → Bool) (gs : List (Guarded kind)) : List (List Char) :=
  (gs.filter fun g => b g.guard).map (·.text)

/-- A clause is composed of the texts whose variables are true: whatever the truth of the variables is, its text is
that of a clause of these texts, and one of assignments has no comma at the end. -/
def Composes (kind : ClauseKind) (gs : List (Guarded kind)) : Prop :=
  ∀ (context : List (String × Value)) (strict : Bool), ∃ t, compile (clauseSource kind gs) context strict = .ok t ∧
    ∀ (params : Params) (b : String → Bool), (∀ g ∈ gs, (valueOf t params g.guard).truth = .ok (b g.guard)) →
      t.render params = .ok (String.ofList (joinedClause kind (enabled b gs))) ∧
        (kind = .assignments → (joinedClause kind (enabled b gs)).getLast? ≠ some ',')

/-- What is written around the texts that are written. -/
theorem chosen_entry (b : String → Bool) (gs : List (Guarded kind)) (out : String) :
    chosen b (gs.map Guarded.entry) out =
      out ++ String.ofList ((enabled b gs).flatMap fun t => kind.before ++ t ++ kind.behind) := by
  induction gs generalizing out with
  | nil => simp [chosen, enabled]
  | cons g gs ih =>
      have hstep : chosen b ((g :: gs).map Guarded.entry) out =
          chosen b (gs.map Guarded.entry) (out ++ if b g.guard then String.ofList g.data else "") := rfl
      rw [hstep, ih]
      cases h : b g.guard with
      | true => simp [enabled, h, Guarded.data, String.ofList_append, String.append_assoc]
      | false => simp [enabled, h]

theorem mem_enabled {b : String → Bool} {gs : List (Guarded kind)} {t : List Char} (h : t ∈ enabled b gs) :
    ∃ g ∈ gs, g.text = t := by
  obtain ⟨g, hg, rfl⟩ := List.mem_map.mp h
  exact ⟨g, (List.mem_filter.mp hg).1, rfl⟩

/-- The text of a body in which the texts stand that are written. -/
theorem clauseText_chosen (b : String → Bool) (gs : List (Guarded kind)) :
    clauseText kind (chosen b (gs.map Guarded.entry) "") = String.ofList (joinedClause kind (enabled b gs)) := by
  rw [chosen_entry, String.empty_append, clauseText, String.toList_ofList]
  refine congrArg String.ofList (clauseChars_flatMap kind fun t ht => ?_)
  obtain ⟨g, -, rfl⟩ := mem_enabled ht
  exact ⟨g.ne, g.trimmed⟩

/-- **Clauses are composed of the texts whose variables are true.** The variables may be called anything but what a
snippet is given by whoever calls it. -/
theorem clause_composes (kind : ClauseKind) (gs : List (Guarded kind)) (h : ∀ g ∈ gs, g.guard ∉ specialNames) :
    Composes kind gs := by
  intro context strict
  obtain ⟨line, hparse⟩ := parse_clauseSource kind gs
  have hmem : ∀ x ∈ guardsOf (gs.map Guarded.entry), ∃ g ∈ gs, g.guard = x := by
    intro x hx
    simpa [guardsOf, Guarded.entry] using hx
  have hspecial : ∀ x ∈ guardsOf (gs.map Guarded.entry), x ∉ specialNames := by
    intro x hx
    obtain ⟨g, hg, rfl⟩ := hmem x hx
    exact h g hg
  have hself : "self" ∉ guardsOf (gs.map Guarded.entry) := by
    intro hx
    obtain ⟨g, -, hguard⟩ := hmem _ hx
    have hvariable := g.isVariable
    rw [hguard, isVariable] at hvariable
    simp at hvariable
  obtain ⟨program, place, numbers, hlink, hscope, hbody, hsnippets, hplaces⟩ :=
    link_clauseOf kind strict line hself hspecial
  let t : Template :=
    { source := clauseSource kind gs, preview := previewOf (clauseSource kind gs), context, strict, program
      parameters := program.parameters (context.map (·.1)) }
  have hcompile : compile (clauseSource kind gs) context strict = .ok t :=
    compile_of_foldBody_eq hparse hlink (foldBody_clauseOf strict line)
  refine ⟨t, hcompile, fun params b hb => ⟨?_, fun hkind => ?_⟩⟩
  · have hv : ∀ x ∈ guardsOf (gs.map Guarded.entry), (place x).depth = 0 ∧ ∃ i, numbers[(place x).slot]? = some i ∧
        ((((program.externals.map (t.lookup params))[i]?).join).getD
          (.absent strict (.variable (place x).name))).truth = .ok (b x) := by
      intro x hx
      obtain ⟨hdepth, hname, i, hi, hexternal⟩ := hplaces x hx
      obtain ⟨g, hg, rfl⟩ := hmem x hx
      refine ⟨hdepth, i, hi, ?_⟩
      rw [List.getElem?_map, hexternal, hname]
      exact hb g hg
    have hrun : Context.run ⟨program, program.externals.map (t.lookup params), strict⟩ renderFuel = _ :=
      run_clause hscope hbody hsnippets hv
    rw [clauseText_chosen] at hrun
    exact render_eq_ok_iff.mpr hrun
  · subst hkind
    refine getLast?_joinedClause_ne .assignments (by decide) fun t ht => ?_
    obtain ⟨g, -, rfl⟩ := mem_enabled ht
    exact ⟨g.ne, g.ending⟩

/-- Two conditions in which the connectives and the comma stand. -/
def twoConditions : List (Guarded .conditions) :=
  [{ guard := "name", text := "name = 'a, b'".toList, isVariable := by decide +kernel, ne := by decide
     trimmed := by decide, plain := by decide, noReturn := by decide, ending := by decide },
   { guard := "age", text := "age > 1\nor age < 0".toList, isVariable := by decide +kernel, ne := by decide
     trimmed := by decide, plain := by decide, noReturn := by decide, ending := by decide }]

example : clauseSource .conditions twoConditions = "{% where %}{% if name %} AND name = 'a, b'{% endif %}" ++
    "{% if age %} AND age > 1\nor age < 0{% endif %}{% endwhere %}" := by rfl

theorem twoConditions_compose : ∃ t, compile (clauseSource .conditions twoConditions) [] true = .ok t ∧
    t.render [(.str "name", .null), (.str "age", .int 3)] = .ok "WHERE age > 1\nor age < 0" ∧
    t.render [(.str "name", .str "x"), (.str "age", .int 3)] =
      .ok "WHERE name = 'a, b' AND age > 1\nor age < 0" := by
  have hguards : ∀ g ∈ twoConditions, g.guard ∉ specialNames := by decide
  obtain ⟨t, hcompile, hrender⟩ := clause_composes .conditions twoConditions hguards [] true
  have hvalues : ∀ v : Value, valueOf t [(.str "name", v), (.str "age", .int 3)] "name" = v ∧
      valueOf t [(.str "name", v), (.str "age", .int 3)] "age" = .int 3 := by
    intro v
    simp [valueOf, lookup, param?, Value.lookup?, Value.sameKey, Value.eq]
  refine ⟨t, hcompile, ?_, ?_⟩
  · refine (hrender _ (· == "age") fun g hg => ?_).1
    simp only [twoConditions, List.mem_cons, List.not_mem_nil, or_false] at hg
    rcases hg with rfl | rfl
    · rw [(hvalues _).1]
      rfl
    · rw [(hvalues _).2]
      rfl
  · refine (hrender _ (fun _ => true) fun g hg => ?_).1
    simp only [twoConditions, List.mem_cons, List.not_mem_nil, or_false] at hg
    rcases hg with rfl | rfl
    · rw [(hvalues _).1]
      rfl
    · rw [(hvalues _).2]
      rfl

/-! ### Variables that a snippet is given -/

/-- A condition for a variable. -/
def conditionFor (x : String) (hx : isVariable x = true) : Guarded .conditions where
  guard := x
  text := "a = 1".toList
  isVariable := hx
  ne := by decide
  trimmed := by decide
  plain := by decide
  noReturn := by decide
  ending := by decide

theorem isVariable_special : ∀ x ∈ specialNames, isVariable x = true := by decide +kernel

/-- Under a special name the snippet has a slot of its own, which is empty or holds nothing. -/
theorem link_special (line : Nat) : ∀ x ∈ specialNames,
    (link false (clauseOf .conditions [(x, " AND a = 1")] line)).toOption.map (fun p =>
      (p.externals, (Context.run ⟨p, [], false⟩ renderFuel).toOption)) = some ([], some "") := by
  intro x hx
  simp only [specialNames, List.mem_cons, List.not_mem_nil, or_false] at hx
  rcases hx with rfl | rfl | rfl
  · cbv
  · cbv
  · cbv

/-- A condition for a special name is never written. -/
theorem not_composes_of_mem {x : String} (hx : x ∈ specialNames) :
    ¬ Composes .conditions [conditionFor x (isVariable_special x hx)] := by
  intro h
  obtain ⟨t, hcompile, hrender⟩ := h [] false
  obtain ⟨line, hparse⟩ := parse_clauseSource .conditions [conditionFor x (isVariable_special x hx)]
  obtain ⟨body, program, left, hparse', hlink, -, rfl⟩ := compile_eq_ok_iff.mp hcompile
  cases hparse'.symm.trans hparse
  have hentries : [conditionFor x (isVariable_special x hx)].map Guarded.entry = [(x, " AND a = 1")] := rfl
  have hlinked := link_special line x hx
  rw [hentries] at hlink
  rw [hlink] at hlinked
  obtain ⟨hexternals, hempty⟩ :
      program.externals = [] ∧ (Context.run ⟨program, [], false⟩ renderFuel).toOption = some "" := by
    simpa [Except.toOption] using hlinked
  have hrendered := (hrender [(.str x, .bool true)] (fun _ => true) (by
    simp [valueOf, lookup, param?, Value.lookup?, Value.sameKey, Value.eq, conditionFor, Value.truth])).1
  have hrun := render_eq_ok_iff.mp hrendered
  rw [hexternals] at hrun
  have hwritten : Context.run ⟨program, [], false⟩ renderFuel = .ok "WHERE a = 1" := hrun
  rw [hwritten] at hempty
  revert hempty
  decide

/-- **A condition for what a snippet is given by its caller is not written when a parameter of that name is true.** -/
theorem not_composes :
    ¬ Composes .conditions [conditionFor "caller" (isVariable_special _ (by decide))] ∧
    ¬ Composes .conditions [conditionFor "kwargs" (isVariable_special _ (by decide))] ∧
    ¬ Composes .conditions [conditionFor "varargs" (isVariable_special _ (by decide))] :=
  ⟨not_composes_of_mem (by decide), not_composes_of_mem (by decide), not_composes_of_mem (by decide)⟩

end SqlMapper.Template
