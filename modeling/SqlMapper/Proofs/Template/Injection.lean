import SqlMapper.Proofs.Sql.Quotation
import SqlMapper.Proofs.Template.Rendering
/-!
# SqlMapper.Proofs.Template.Injection

Printed texts do not change the statement around them (`Outline.keepsShape`). The texts of a template are read
as they are read by themselves, and between two of them stands one literal for the value, whatever the value
is; so two renderings have the same tokens, but for the inside of these literals.

This needs that literals do not touch: two variables with nothing in between are printed as one literal. And
it is about the texts with their line ends unified, since that is what a template is compiled from: a carriage
return in a line comment becomes a line feed, which ends the comment.
-/

namespace SqlMapper.Template

open Sql (Dialect lexWith isComplete quoteChars undouble)

/-! ### Texts around literals -/

/-- May literals stand between these texts? Each text before a literal is complete, and none has a quote next
to a literal. -/
structure Separated (d : Dialect) (segments : List (List Char)) : Prop where
  complete : ∀ cs ∈ segments.dropLast, isComplete d cs = true
  noQuoteBefore : ∀ cs ∈ segments.dropLast, cs.getLast? ≠ some '\''
  noQuoteBehind : ∀ cs ∈ segments.tail, cs.head? ≠ some '\''

/-- Do texts keep the literals between them apart? -/
def KeepApart (segments : List (List Char)) : Prop := ∀ cs ∈ segments.tail.dropLast, cs ≠ []

theorem Separated.tail {d : Dialect} {cs : List Char} {segments : List (List Char)}
    (h : Separated d (cs :: segments)) (hne : segments ≠ []) :
    Separated d segments ∧ isComplete d cs = true ∧ cs.getLast? ≠ some '\'' ∧
      ∀ ds ∈ segments, ds.head? ≠ some '\'' := by
  have hinit : (cs :: segments).dropLast = cs :: segments.dropLast := List.dropLast_cons_of_ne_nil hne
  have hcomplete := h.complete
  have hbefore := h.noQuoteBefore
  rw [hinit] at hcomplete hbefore
  exact ⟨⟨fun ds hds => hcomplete ds (List.mem_cons_of_mem _ hds),
    fun ds hds => hbefore ds (List.mem_cons_of_mem _ hds),
    fun ds hds => h.noQuoteBehind ds (List.mem_of_mem_tail hds)⟩,
    hcomplete cs List.mem_cons_self, hbefore cs List.mem_cons_self, h.noQuoteBehind⟩

namespace Outline

theorem segments_ne_nil (o : Outline) : o.segments ≠ [] := by
  cases o <;> exact List.cons_ne_nil _ _

/-- The texts as they are compiled. -/
def compiledSegments (o : Outline) : List (List Char) := o.segments.map Text.unifyLineEnds

theorem compiledSegments_ne_nil (o : Outline) : o.compiledSegments ≠ [] := by
  simpa [compiledSegments] using o.segments_ne_nil

/-- No quote stands behind a literal. -/
theorem head?_filled (o : Outline) (v : String → String)
    (hquote : ∀ cs ∈ o.compiledSegments, cs.head? ≠ some '\'')
    (hne : ∀ cs ∈ o.segments.dropLast, cs ≠ []) :
    (o.prepared.filled v).head? ≠ some '\'' := by
  cases o with
  | last cs =>
      have hcs := hquote (Text.unifyLineEnds cs) (by simp [compiledSegments, segments])
      exact fun hhead => hcs (head?_dropLastLineEnd hhead)
  | output cs x hx plain apart more =>
      have hcs := hquote (Text.unifyLineEnds cs) (by simp [compiledSegments, segments])
      have hunified : Text.unifyLineEnds cs ≠ [] := by
        refine unifyLineEnds_ne_nil (hne cs ?_)
        rw [segments, List.dropLast_cons_of_ne_nil more.segments_ne_nil]
        exact List.mem_cons_self
      obtain ⟨c, ds, hds⟩ := List.exists_cons_of_ne_nil hunified
      rw [hds] at hcs
      rw [prepared, filled, hds]
      exact hcs

/-- The tokens of the text that an outline is rendered to. -/
def sqlTokens (d : Dialect) (v : String → String) : Outline → List Sql.Token
  | last cs _ => lexWith d cs
  | output cs x _ _ _ more => lexWith d cs ++ .quoted (quoteChars (v x).toList) :: more.sqlTokens d v

/-- The text that an outline is rendered to is read as its texts by themselves, with one literal for each
variable. -/
theorem lexWith_filled {d : Dialect} (noEscapes : d.escapes = false) (opens : d.opens '\'' = true)
    (o : Outline) (v : String → String) (separated : Separated d o.compiledSegments)
    (apart : KeepApart o.segments) :
    lexWith d (o.prepared.filled v) = o.prepared.sqlTokens d v := by
  induction o with
  | last => rfl
  | output cs x hx plain hbrace more ih =>
      obtain ⟨separated, complete, hbefore, hbehind⟩ := separated.tail more.compiledSegments_ne_nil
      -- behind the literal comes the next text, which is not empty, or what ends the template
      have hmore : (more.prepared.filled v).head? ≠ some '\'' := more.head?_filled v hbehind apart
      have hrest := ih separated fun ds hds => apart ds (by
        rw [← List.tail_dropLast] at hds
        exact List.mem_of_mem_tail hds)
      have closed := Sql.isLiteralRest_escapeQuotes (v x).toList
      rw [← noEscapes] at closed
      have precedes := Sql.mayPrecede_of_isComplete complete hbefore
      rw [prepared, filled, sqlTokens, quoteChars, Sql.lexWith_around_literal opens closed precedes hmore,
        hrest]

/-! ### The places of the literals -/

/-- The places of the literals among the tokens. -/
def places (d : Dialect) : Outline → List Nat
  | last .. => []
  | output cs _ _ _ _ more =>
    (lexWith d cs).length :: (more.places d).map (· + ((lexWith d cs).length + 1))

theorem length_places (d : Dialect) (o : Outline) : (o.places d).length = o.printed.length := by
  induction o with
  | last => rfl
  | output cs x _ _ _ more ih => simp [places, printed, ih]

theorem pairwise_places (d : Dialect) (o : Outline) : (o.places d).Pairwise (· < ·) := by
  induction o with
  | last => exact List.Pairwise.nil
  | output cs x _ _ _ more ih =>
      refine List.Pairwise.cons (fun i hi => ?_) ?_
      · obtain ⟨j, -, rfl⟩ := List.mem_map.mp hi
        omega
      · exact ih.map _ fun i j hij => by omega

theorem length_sqlTokens (d : Dialect) (o : Outline) (v w : String → String) :
    (o.sqlTokens d v).length = (o.sqlTokens d w).length := by
  induction o with
  | last => rfl
  | output cs x _ _ _ more ih => simp [sqlTokens, ih]

theorem getElem?_append_cons {α : Type} (as bs : List α) (a : α) (i : Nat) :
    (as ++ a :: bs)[i + (as.length + 1)]? = bs[i]? := by
  rw [List.getElem?_append_right (by omega), show i + (as.length + 1) - as.length = i + 1 by omega,
    List.getElem?_cons_succ]

/-- At its place stands the literal of a variable. -/
theorem getElem?_sqlTokens_place {d : Dialect} (o : Outline) (v : String → String) {k i : Nat} {x : String}
    (hx : o.printed[k]? = some x) (hi : (o.places d)[k]? = some i) :
    (o.sqlTokens d v)[i]? = some (.quoted (quoteChars (v x).toList)) := by
  induction o generalizing k i with
  | last => cases hx
  | output cs y _ _ _ more ih =>
      cases k with
      | zero =>
          cases hx
          cases hi
          simp [sqlTokens]
      | succ k =>
          simp only [places, List.getElem?_cons_succ, List.getElem?_map, Option.map_eq_some_iff] at hi
          obtain ⟨j, hj, rfl⟩ := hi
          rw [sqlTokens, getElem?_append_cons]
          exact ih hx hj

/-- Anywhere else stands what does not depend on the values. -/
theorem getElem?_sqlTokens_of_not_mem {d : Dialect} (o : Outline) (v w : String → String) {i : Nat}
    (hi : i ∉ o.places d) :
    (o.sqlTokens d v)[i]? = (o.sqlTokens d w)[i]? := by
  induction o generalizing i with
  | last => rfl
  | output cs x _ _ _ more ih =>
      simp only [places, List.mem_cons, List.mem_map, not_or, not_exists, not_and] at hi
      obtain ⟨hplace, hmore⟩ := hi
      rw [sqlTokens, sqlTokens]
      by_cases hlt : i < (lexWith d cs).length
      · rw [List.getElem?_append_left hlt, List.getElem?_append_left hlt]
      · obtain ⟨j, rfl⟩ : ∃ j, i = j + ((lexWith d cs).length + 1) :=
          ⟨i - ((lexWith d cs).length + 1), by omega⟩
        rw [getElem?_append_cons, getElem?_append_cons]
        exact ih fun hj => hmore j hj rfl

/-! ### Renderings -/

/-- Do parameters give texts to the variables of an outline? -/
def Gives (o : Outline) (params : Params) (v : String → String) : Prop :=
  ∀ x ∈ o.printed, param? params x = some (.str (v x))

/-- With whatever texts for its variables an outline is rendered, the text has the same tokens, but for as
many literals as variables, each of which stands for its variable's text. -/
def KeepsShape (d : Dialect) (o : Outline) (strict : Bool) : Prop :=
  ∃ t, compile o.source [] strict = .ok t ∧
    ∃ literals : List Nat, literals.length = o.printed.length ∧ literals.Pairwise (· < ·) ∧
      ∀ params v, o.Gives params v → ∃ text, t.render params = .ok text ∧
        (∀ (k i : Nat) (x : String), o.printed[k]? = some x → literals[k]? = some i →
          ∃ inside, (lexWith d text.toList)[i]? = some (Sql.Token.quoted ('\'' :: (inside ++ ['\'']))) ∧
            undouble inside = (v x).toList) ∧
        ∀ params' v', o.Gives params' v' → ∃ text', t.render params' = .ok text' ∧
          (lexWith d text'.toList).length = (lexWith d text.toList).length ∧
          ∀ i : Nat, i ∉ literals → (lexWith d text'.toList)[i]? = (lexWith d text.toList)[i]?

/-- **Printed texts do not change the statement around them**, in any dialect without escapes, if the texts
around them, with their line ends unified, may have literals in between and keep them apart. -/
theorem keepsShape {d : Dialect} (noEscapes : d.escapes = false) (opens : d.opens '\'' = true) (o : Outline)
    (strict : Bool) (separated : Separated d o.compiledSegments) (apart : KeepApart o.segments) :
    KeepsShape d o strict := by
  obtain ⟨t, hcompile, hrender⟩ := o.compiles [] strict
  have htokens : ∀ v,
      lexWith d (String.ofList (o.prepared.filled v)).toList = o.prepared.sqlTokens d v := by
    intro v
    rw [String.toList_ofList, o.lexWith_filled noEscapes opens v separated apart]
  refine ⟨t, hcompile, o.prepared.places d, ?_, o.prepared.pairwise_places d, fun params v hv =>
    ⟨_, hrender params v hv, ?_, fun params' v' hv' => ⟨_, hrender params' v' hv', ?_, fun i hi => ?_⟩⟩⟩
  · rw [length_places, printed_prepared]
  · intro k i x hx hi
    rw [← printed_prepared] at hx
    refine ⟨Sql.escapeQuotes (v x).toList, ?_, ?_⟩
    · rw [htokens]
      exact o.prepared.getElem?_sqlTokens_place v hx hi
    · exact Sql.undouble_escapeQuotes _
  · rw [htokens, htokens]
    exact o.prepared.length_sqlTokens d v' v
  · rw [htokens, htokens]
    exact o.prepared.getElem?_sqlTokens_of_not_mem v' v hi

/-- A condition with two variables and a comment. -/
theorem keepsShape_of_condition :
    let o : Outline := .output "a = ".toList "x" (by decide) (by decide) (by decide)
      (.output " -- it's\nAND b = ".toList "y" (by decide) (by decide) (by decide) (.last [] rfl))
    Separated .standard o.compiledSegments ∧ KeepApart o.segments ∧ KeepsShape .standard o true := by
  intro o
  have hfirst : isComplete .standard "a = ".toList = true := by cbv
  have hsecond : isComplete .standard " -- it's\nAND b = ".toList = true := by cbv
  have hcomplete : ∀ cs ∈ ["a = ".toList, " -- it's\nAND b = ".toList], isComplete .standard cs = true :=
    List.forall_mem_cons.mpr ⟨hfirst, List.forall_mem_singleton.mpr hsecond⟩
  have separated : Separated .standard o.compiledSegments := ⟨hcomplete, by decide, by decide⟩
  have apart : KeepApart o.segments := List.forall_mem_singleton.mpr (by decide)
  exact ⟨separated, apart, keepsShape rfl rfl o true separated apart⟩

/-- What a template that keeps its shape is rendered to has a literal for each variable. -/
theorem KeepsShape.exists_literal {d : Dialect} {o : Outline} {strict : Bool} (h : KeepsShape d o strict)
    {params : Params} {v : String → String} (hv : o.Gives params v) {x : String} (hx : x ∈ o.printed) :
    ∃ inside, Sql.Token.quoted ('\'' :: (inside ++ ['\''])) ∈ lexWith d (o.prepared.filled v) ∧
      undouble inside = (v x).toList := by
  obtain ⟨t, hcompile, literals, hlength, -, hkeeps⟩ := h
  obtain ⟨t', hcompile', hrender⟩ := o.compiles [] strict
  have ht : t = t' := Except.ok.inj (hcompile.symm.trans hcompile')
  obtain ⟨text, htext, hliterals, -⟩ := hkeeps params v hv
  have hfilled : text = String.ofList (o.prepared.filled v) := by
    rw [ht, hrender params v hv] at htext
    exact (Except.ok.inj htext).symm
  obtain ⟨k, hk⟩ := List.mem_iff_getElem?.mp hx
  have hlt := (List.getElem?_eq_some_iff.mp hk).1
  obtain ⟨inside, hinside, hundoubled⟩ := hliterals k _ x hk (List.getElem?_eq_getElem (by omega))
  rw [hfilled, String.toList_ofList] at hinside
  exact ⟨inside, List.mem_of_getElem? hinside, hundoubled⟩

/-- Where the shape is lost. Two variables with nothing in between are printed as one literal; and a carriage
return in a line comment becomes a line feed, so that what is behind it is no comment any more. -/
theorem not_keepsShape :
    let touching : Outline := .output [] "x" (by decide) (by decide) (by decide)
      (.output [] "y" (by decide) (by decide) (by decide) (.last [] rfl))
    let broken : Outline :=
      .output "-- it's\r it's\n".toList "x" (by decide) (by decide) (by decide) (.last [] rfl)
    ((∀ cs ∈ touching.segments, isComplete .standard cs = true) ∧ Separated .standard touching.segments ∧
      ¬ KeepsShape .standard touching false) ∧
    (∀ cs ∈ broken.segments, isComplete .standard cs = true) ∧ Separated .standard broken.segments ∧
      KeepApart broken.segments ∧ ¬ KeepsShape .standard broken false := by
  intro touching broken
  have hempty : isComplete .standard [] = true := by cbv
  have hcomment : isComplete .standard "-- it's\r it's\n".toList = true := by cbv
  have touchingComplete : ∀ cs ∈ touching.segments, isComplete .standard cs = true :=
    List.forall_mem_cons.mpr ⟨hempty, List.forall_mem_cons.mpr ⟨hempty, List.forall_mem_singleton.mpr hempty⟩⟩
  have brokenComplete : ∀ cs ∈ broken.segments, isComplete .standard cs = true :=
    List.forall_mem_cons.mpr ⟨hcomment, List.forall_mem_singleton.mpr hempty⟩
  refine ⟨⟨touchingComplete, ⟨?_, by decide, by decide⟩, fun h => ?_⟩, brokenComplete,
    ⟨?_, by decide, by decide⟩, fun _ hcs => absurd hcs List.not_mem_nil, fun h => ?_⟩
  · exact fun cs hcs => touchingComplete cs (List.dropLast_subset _ hcs)
  · have hv : touching.Gives [(.str "x", .str "a"), (.str "y", .str "b")]
        fun x => if x = "x" then "a" else "b" :=
      List.forall_mem_cons.mpr ⟨by cbv, List.forall_mem_singleton.mpr (by cbv)⟩
    have htokens : lexWith .standard (touching.prepared.filled fun x => if x = "x" then "a" else "b") =
        [.quoted ('\'' :: ("a''b".toList ++ ['\'']))] := by cbv
    obtain ⟨inside, hmem, hinside⟩ := h.exists_literal hv (x := "x") (by decide)
    rw [htokens, List.mem_singleton, Sql.Token.quoted.injEq, List.cons.injEq, List.append_left_inj] at hmem
    rw [hmem.2] at hinside
    exact absurd hinside (by decide)
  · exact fun cs hcs => brokenComplete cs (List.dropLast_subset _ hcs)
  · have hv : broken.Gives [(.str "x", .str "a")] fun _ => "a" := List.forall_mem_singleton.mpr (by cbv)
    have htokens : lexWith .standard (broken.prepared.filled fun _ => "a") =
        [.lineComment "-- it's".toList, .blank "\n ".toList, .char 'i', .char 't',
          .quoted ('\'' :: ("s\n".toList ++ ['\''])), .char 'a', .quoted ['\'']] := by cbv
    obtain ⟨inside, hmem, hinside⟩ := h.exists_literal hv (x := "x") (by decide)
    simp only [htokens, List.mem_cons, List.not_mem_nil, or_false, reduceCtorEq, false_or,
      Sql.Token.quoted.injEq, List.cons.injEq, true_and, List.append_left_inj, List.append_eq_nil_iff,
      and_false] at hmem
    rw [hmem] at hinside
    exact absurd hinside (by decide)

end Outline

end SqlMapper.Template
