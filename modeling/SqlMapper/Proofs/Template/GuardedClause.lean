import SqlMapper.Proofs.Template.BlockTags
import SqlMapper.Proofs.Template.ClauseText
import SqlMapper.Proofs.Template.Linking
/-!
# SqlMapper.Proofs.Template.GuardedClause

Clauses put together from texts that are each written if a variable is true (`Guarded`). Such a clause is parsed to a
choice for each text (`parse_clauseSource`), and linked to a snippet that has a slot for each variable, filled from
outside (`link_clauseOf`).

Linking is for variables under other names than those that a snippet is given something under by whoever calls it
(`specialNames`): for these it has slots that are not filled from outside.
-/

namespace SqlMapper.Template

open SqlMapper.Text

/-! ### Clauses as they are written -/

/-- The character that no text ends in: a brace would make a mark together with the tag behind it, a comma would
stand before another one. -/
def ClauseKind.barred : ClauseKind → Char
  | conditions => openBrace
  | assignments => ','

/-- A text of a clause, and the variable that it is written for. -/
structure Guarded (kind : ClauseKind) where
  guard : String
  text : List Char
  isVariable : isVariable guard = true
  ne : text ≠ []
  trimmed : trim text = text
  plain : hasMark text = false
  noReturn : '\r' ∉ text
  ending : text.getLast? ≠ some kind.barred

variable {kind : ClauseKind}

namespace Guarded

/-- The text with what is written around it. -/
def data (g : Guarded kind) : List Char := kind.before ++ g.text ++ kind.behind

/-- The text in its tags. -/
def written (g : Guarded kind) : List Char := tagWritten ["if", g.guard] ++ g.data ++ tagWritten ["endif"]

/-- The segments that it is written in. -/
def segments (g : Guarded kind) : List Segment := [⟨[], ["if", g.guard]⟩, ⟨g.data, ["endif"]⟩]

theorem data_ne_nil (g : Guarded kind) : g.data ≠ [] := by
  cases kind <;> simp [data, ClauseKind.before]

end Guarded

/-- The template of a clause. -/
def clauseSource (kind : ClauseKind) (gs : List (Guarded kind)) : String :=
  String.ofList (tagWritten [kind.openWord] ++ gs.flatMap Guarded.written ++ tagWritten [kind.closeWord])

/-- The segments of the template. -/
def clauseSegments (kind : ClauseKind) (gs : List (Guarded kind)) : List Segment :=
  ⟨[], [kind.openWord]⟩ :: (gs.flatMap Guarded.segments ++ [⟨[], [kind.closeWord]⟩])

theorem clauseSource_eq (gs : List (Guarded kind)) :
    clauseSource kind gs = String.ofList (segmentsWritten (clauseSegments kind gs)) := by
  have hwritten : (gs.flatMap Guarded.segments).flatMap Segment.written = gs.flatMap Guarded.written := by
    rw [List.flatMap_assoc]
    refine congrArg (List.flatMap · gs) (funext fun g => ?_)
    simp [Guarded.segments, Guarded.written, Segment.written]
  unfold clauseSource segmentsWritten clauseSegments
  rw [List.flatMap_cons, List.flatMap_append, hwritten]
  simp [Segment.written]

/-! ### What a reader sees of them -/

/-- A text between others makes no mark if they do not. -/
theorem hasMark_append_of {as bs : List Char} (has : hasMark as = false) (hbs : hasMark bs = false)
    (hbetween : bs.head?.any isMark = false) : hasMark (as ++ bs) = false := by
  induction as with
  | nil => exact hbs
  | cons a as ih =>
      rw [hasMark, Bool.or_eq_false_iff] at has
      rw [List.cons_append, hasMark, ih has.2, Bool.or_false]
      cases as with
      | nil => rw [List.nil_append, hbetween, Bool.and_false]
      | cons b as => exact has.1

/-- A tag of words that are not `raw`. -/
theorem isPlain_tag {words : List String} (hne : words ≠ []) (hnames : ∀ w ∈ words, isName w.toList = true)
    (hraw : ∀ w, words.head? = some w → w.toList.head? ≠ some 'r') : Segment.IsPlain ⟨[], words⟩ :=
  ⟨rfl, nofun, nofun, hne, hnames, hraw⟩

namespace Guarded

theorem hasMark_data (g : Guarded kind) : hasMark g.data = false := by
  have hbefore : hasMark (kind.before ++ g.text) = false := by
    cases kind <;> simpa [ClauseKind.before, hasMark, openBrace] using g.plain
  refine hasMark_append_of hbefore ?_ ?_ <;> cases kind <;> decide

theorem not_mem_data (g : Guarded kind) : '\r' ∉ g.data := by
  cases kind <;> simpa [data, ClauseKind.before, ClauseKind.behind] using g.noReturn

theorem getLast?_data (g : Guarded kind) : g.data.getLast? ≠ some openBrace := by
  cases kind with
  | conditions =>
      have hlast : g.data.getLast? = g.text.getLast? := by
        rw [data, ClauseKind.behind, List.append_nil, List.getLast?_append_of_ne_nil _ g.ne]
      rw [hlast]
      exact g.ending
  | assignments =>
      rw [data, ClauseKind.behind, List.getLast?_concat]
      decide

theorem isPlain_segments (g : Guarded kind) {seg : Segment} (h : seg ∈ g.segments) : seg.IsPlain := by
  have hname := isName_of_isVariable g.isVariable
  simp only [segments, List.mem_cons, List.not_mem_nil, or_false] at h
  rcases h with rfl | rfl
  · exact isPlain_tag (by simp) (by simp [hname]; decide) (by simp)
  · exact ⟨g.hasMark_data, g.getLast?_data, g.not_mem_data, by simp, by simp; decide, by simp⟩

end Guarded

theorem isPlain_clauseSegments {gs : List (Guarded kind)} {seg : Segment} (h : seg ∈ clauseSegments kind gs) :
    seg.IsPlain := by
  simp only [clauseSegments, List.mem_cons, List.mem_append, List.mem_flatMap, List.not_mem_nil, or_false] at h
  rcases h with rfl | ⟨g, -, hg⟩ | rfl
  · cases kind <;> exact isPlain_tag (by simp) (by decide) (by simp [ClauseKind.openWord])
  · exact g.isPlain_segments hg
  · cases kind <;> exact isPlain_tag (by simp) (by decide) (by simp [ClauseKind.closeWord])

/-! ### The tree -/

/-- Texts that are each written if a variable is true. -/
def choicesOf (texts : List (String × String)) : List Stmt :=
  texts.map fun (x, d) => .choice (.var x) [.output [.data d]] [] []

/-- The tree of a clause of such texts. -/
def clauseOf (kind : ClauseKind) (texts : List (String × String)) (line : Nat) : List Stmt :=
  [.clause kind (choicesOf texts) line]

/-- A text by its variable. -/
def Guarded.entry (g : Guarded kind) : String × String := (g.guard, String.ofList g.data)

section Parsing

variable {ks : List TokenKind} {last : String}

open Parses Reader

/-- The kinds of tokens of a text in its tags. -/
theorem Guarded.kinds_segments (g : Guarded kind) : g.segments.flatMap Segment.kinds =
    [.blockBegin, .name "if", .name g.guard, .blockEnd, .data (String.ofList g.data), .blockBegin, .name "endif",
      .blockEnd] := by
  have hempty : g.data.isEmpty = false := List.isEmpty_eq_false_iff.mpr g.data_ne_nil
  simp [segments, Segment.kinds, dataKinds, hempty]

/-- Texts in their tags, up to the tag at the end of a body. -/
theorem statementsFrom_guarded {rules : Rules} {depth n : Nat} (gs : List (Guarded kind)) (done : List Stmt)
    (hlast : last ≠ "if") (hn : gs.length < n) :
    Parses (statementsFrom ⟨rules, Body.ofDepth rules (depth + 1)⟩ (some [last]) n [] done)
      ((gs.flatMap Guarded.segments).flatMap Segment.kinds ++ .blockBegin :: .name last :: ks)
      (done.reverse ++ choicesOf (gs.map Guarded.entry)) (.name last :: ks) := by
  induction gs generalizing n done with
  | nil =>
      obtain ⟨n, rfl⟩ : ∃ m, n = m + 1 := ⟨n - 1, by omega⟩
      rw [List.map_nil, choicesOf, List.map_nil, List.append_nil]
      exact statementsFrom_end (List.mem_singleton_self last)
  | cons g gs ih =>
      rw [List.length_cons] at hn
      obtain ⟨n, rfl⟩ : ∃ m, n = m + 1 := ⟨n - 1, by omega⟩
      have hends : ((some [last]).any fun es => es.any fun e => (TokenKind.name "if").isName e) = false := by
        simpa [TokenKind.isName] using hlast
      have hmore := ih (.choice (.var g.guard) [.output [.data (String.ofList g.data)]] [] [] :: done) (n := n) (by omega)
      rw [List.reverse_cons, List.append_assoc] at hmore
      rw [List.flatMap_cons, List.flatMap_append, g.kinds_segments, List.append_assoc]
      exact statementsFrom_statement hends (statement_if g.isVariable (body_text (by simp))) hmore

/-- A text in its tags has as many tokens as it takes steps to read it, and more. -/
theorem length_le_kinds (gs : List (Guarded kind)) :
    gs.length ≤ ((gs.flatMap Guarded.segments).flatMap Segment.kinds).length := by
  induction gs with
  | nil => simp
  | cons g gs ih =>
      rw [List.flatMap_cons, List.flatMap_append, g.kinds_segments, List.length_append]
      simp only [List.length_cons, List.length_nil]
      omega

/-- A template that is a clause. -/
theorem run_statementsFrom_clause (rules : Rules) (depth n : Nat) (gs : List (Guarded kind)) {s : ReaderState}
    (hs : s.Sees (.blockBegin :: .name kind.openWord :: .blockEnd ::
      ((gs.flatMap Guarded.segments).flatMap Segment.kinds ++ [.blockBegin, .name kind.closeWord, .blockEnd]))) :
    ∃ line s', (statementsFrom ⟨rules, Body.ofDepth rules (depth + 2)⟩ none (n + 2) [] []).run s =
      .ok (clauseOf kind (gs.map Guarded.entry) line, s') := by
  have hlast : kind.closeWord ≠ "if" := by cases kind <;> decide
  have hlength := length_le_kinds gs
  obtain ⟨t, s₁, hopens, hs₁, -⟩ := hs.advance
  have hbody : Parses (Body.ofDepth rules (depth + 2) (some [kind.closeWord]))
      ((gs.flatMap Guarded.segments).flatMap Segment.kinds ++ [.blockBegin, .name kind.closeWord, .blockEnd])
      (choicesOf (gs.map Guarded.entry)) [.name kind.closeWord, .blockEnd] := by
    refine bound_bind (awaiting (statementsFrom_guarded gs [] hlast ?_) _)
    rw [List.length_append]
    omega
  obtain ⟨line, s₂, hclause, hs₂⟩ := statement_clause (r := ⟨rules, Body.ofDepth rules (depth + 2)⟩) kind hbody hs₁
  obtain ⟨s₃, hends, hs₃⟩ := blockEnd s₂ hs₂
  have heof : Parses (statementsFrom ⟨rules, Body.ofDepth rules (depth + 2)⟩ none (n + 1) []
      (clauseOf kind (gs.map Guarded.entry) line)) [] (clauseOf kind (gs.map Guarded.entry) line) [] :=
    statementsFrom_eof
  obtain ⟨s₄, hrest, -⟩ := heof s₃ hs₃
  refine ⟨line, s₄, ?_⟩
  rw [statementsFrom, run_bind_ok (run_kind s), kind_eq hs.kinds]
  dsimp only
  rw [run_bind_ok hopens, run_bind_ok (run_kind s₁)]
  dsimp only [Option.any]
  rw [if_neg Bool.false_ne_true, run_bind_ok hclause, run_bind_ok hends]
  exact hrest

/-- **The tree of a clause of texts that are each written if a variable is true.** -/
theorem parse_clauseSource (kind : ClauseKind) (gs : List (Guarded kind)) :
    ∃ line, parse (clauseSource kind gs) = .ok (clauseOf kind (gs.map Guarded.entry) line) := by
  have hkinds : (tokens (clauseSource kind gs)).map (·.kind) = (clauseSegments kind gs).flatMap Segment.kinds := by
    rw [clauseSource_eq]
    exact kinds_tokens_segments fun seg => isPlain_clauseSegments
  have hsound : ∀ k ∈ (clauseSegments kind gs).flatMap Segment.kinds, k.isSound = true := by
    intro k hk
    obtain ⟨seg, -, hseg⟩ := List.mem_flatMap.mp hk
    exact Segment.isSound_of_mem_kinds hseg
  have hshape : (clauseSegments kind gs).flatMap Segment.kinds = .blockBegin :: .name kind.openWord :: .blockEnd ::
      ((gs.flatMap Guarded.segments).flatMap Segment.kinds ++ [.blockBegin, .name kind.closeWord, .blockEnd]) := by
    simp [clauseSegments, Segment.kinds, dataKinds]
  rw [hshape] at hkinds hsound
  unfold parse
  generalize tokens (clauseSource kind gs) = ts at hkinds
  dsimp only
  let s : ReaderState := { tokens := ts, line := 1, tags := [], awaited := [] }
  have hs : s.Sees _ := ⟨hkinds, hsound⟩
  -- there are tokens enough to go down to the texts
  obtain ⟨depth, hdepth⟩ : ∃ d, ts.length = d + 2 := by
    have hlength := congrArg List.length hkinds
    simp only [List.length_map, List.length_cons] at hlength
    exact ⟨ts.length - 2, by omega⟩
  have hcheck : checkFault.run s = .ok ((), s) := run_checkFault (isSound_kind hs.kinds hs.sound)
  obtain ⟨line, s', hread⟩ := run_statementsFrom_clause (Rules.ofDepth (depth + 3)) depth (depth + 1) gs hs
  have hbound : s.tokens.length + 1 = depth + 3 := congrArg (· + 1) hdepth
  refine ⟨line, ?_⟩
  rw [run_bind_ok hcheck, hdepth, Body.ofDepth, statements, run_bind_ok (run_bound s), hbound]
  rw [hread]
  rfl

end Parsing

/-! ### What is mentioned -/

section Linking

variable {texts : List (String × String)}

/-- The variables that texts are written for. -/
def guardsOf (texts : List (String × String)) : List String := texts.map (·.1)

theorem mentionsAll_choicesOf (insideBlocks : Bool) (texts : List (String × String)) :
    mentionsAll insideBlocks (choicesOf texts) = (guardsOf texts).map .read := by
  induction texts with
  | nil => rfl
  | cons e texts ih =>
      unfold choicesOf guardsOf at ih ⊢
      simp [mentionsAll, mentionsMore, Stmt.mentions, Expr.mentions, ih]

theorem mentionsAll_clauseOf (insideBlocks : Bool) (line : Nat) :
    mentionsAll insideBlocks (clauseOf kind texts line) = (guardsOf texts).map .read := by
  simp [clauseOf, mentionsAll, Stmt.mentions, mentionsAll_choicesOf]

/-- Nothing in a clause is constant. -/
theorem foldBody_choicesOf (strict : Bool) (texts : List (String × String)) :
    foldBody strict (choicesOf texts) = choicesOf texts := by
  induction texts with
  | nil => rfl
  | cons e texts ih =>
      have hrest : foldBody strict (choicesOf (e :: texts)) = _ :: foldBody strict (choicesOf texts) := rfl
      rw [hrest, ih]
      rfl

theorem foldBody_clauseOf (strict : Bool) (line : Nat) :
    foldBody strict (clauseOf kind texts line) = clauseOf kind texts line := by
  simp only [clauseOf, foldBody, Stmt.folded, foldBody_choicesOf]

/-! ### The scope of the clause -/

theorem Names.OnlyReads.put {ns : Names} (h : ns.OnlyReads) {x : String} (hx : ns.has x = true) :
    ns.put x .outside = ns := by
  have hslots : ns.slots.map (fun p => (p.1, if p.1 == x then .outside else p.2)) = ns.slots := by
    refine (List.map_congr_left fun p hp => ?_).trans (List.map_id _)
    rw [← h.outside p hp, ite_self]
    rfl
  unfold Names.put
  rw [if_pos hx]
  exact congrArg (Names.mk · ns.stored) hslots

/-- Taking over what it has changes nothing. -/
theorem Names.OnlyReads.foldl_put {ns : Names} (h : ns.OnlyReads) :
    ns.slots.foldl (fun acc p => acc.put p.1 p.2) ns = ns := by
  have htaken : ∀ slots : List (String × Source), (∀ p ∈ slots, p ∈ ns.slots) →
      slots.foldl (fun acc p => acc.put p.1 p.2) ns = ns := by
    intro slots hslots
    induction slots with
    | nil => rfl
    | cons p slots ih =>
        obtain ⟨hp, hrest⟩ := List.forall_mem_cons.mp hslots
        have hhas : ns.has p.1 = true := by
          simpa [Names.has, Names.names] using ⟨p.2, hp⟩
        have hput : ns.put p.1 p.2 = ns := by rw [h.outside p hp, h.put hhas]
        rw [List.foldl_cons, hput]
        exact ih hrest
  exact htaken ns.slots fun p hp => hp

/-- Branches that do nothing change nothing. -/
theorem Names.OnlyReads.merge {ns : Names} (h : ns.OnlyReads) (outer : Enclosing) :
    ns.merge outer [ns, ns, ns] = ns := by
  let taken (acc : Names) : Names := ns.slots.foldl (fun acc p => acc.put p.1 p.2) acc
  have hthrice : taken (taken (taken ns)) = ns := by
    have htaken : taken ns = ns := h.foldl_put
    rw [htaken, htaken, htaken]
  unfold Names.merge
  simp only [List.foldl_cons, List.foldl_nil, List.flatMap_cons, List.flatMap_nil, h.stored, List.append_nil,
    List.filter_nil]
  exact hthrice

/-- What the texts of a clause do to its scope: their variables are read. -/
theorem ofBody_choicesOf (outer : Enclosing) (texts : List (String × String)) {ns : Names} (h : ns.OnlyReads) :
    Names.ofBody outer ns (choicesOf texts) = (guardsOf texts).foldl (Names.read outer) ns := by
  induction texts generalizing ns with
  | nil => rfl
  | cons e texts ih =>
      have hread := h.read outer e.1
      have hchoice : Names.ofStmt outer ns (.choice (.var e.1) [.output [.data e.2]] [] []) = ns.read outer e.1 := by
        simp only [Names.ofStmt, Names.ofBody, Names.ofBranches, Names.readAll, reads_var, List.foldl_cons,
          List.foldl_nil, hread.merge]
      change Names.ofBody outer (Names.ofStmt outer ns (.choice (.var e.1) [.output [.data e.2]] [] []))
        (choicesOf texts) = _
      rw [hchoice, ih hread]
      rfl

/-- The words for what a snippet is given besides its arguments. -/
def specialNames : List String := ["caller", "kwargs", "varargs"]

theorem firstRead_special (hspecial : ∀ x ∈ guardsOf texts, x ∉ specialNames) {x : String} (hx : x ∈ specialNames) :
    firstRead x (choicesOf texts) = false :=
  firstRead_of_not_mem (mentionsAll_choicesOf false texts) fun hmem => hspecial x hmem hx

/-- The variables of a clause's scope. -/
theorem snippetNames_choicesOf (hspecial : ∀ x ∈ guardsOf texts, x ∉ specialNames) :
    snippetNames [[]] [] [] (choicesOf texts) = (guardsOf texts).foldl (Names.read []) {} := by
  have hnone : (specialNames.filter fun x => firstRead x (choicesOf texts) && !([] : List String).contains x) = [] := by
    rw [List.filter_eq_nil_iff]
    intro x hx
    rw [firstRead_special hspecial hx]
    exact Bool.false_ne_true
  have houter : Names.read [[]] = Names.read [] := by
    funext ns x
    simp [Names.read, Enclosing.has]
  have hbody : Names.ofBody [[]] {} (choicesOf texts) = (guardsOf texts).foldl (Names.read []) {} := by
    rw [ofBody_choicesOf [[]] texts Names.onlyReads_empty, houter]
  unfold specialNames at hnone
  unfold snippetNames
  rw [hnone]
  exact hbody

/-! ### The program -/

/-- The node of a text, with the places of variables given. -/
def choiceNode (place : String → Place) (e : String × String) : Node :=
  .choice (.var (place e.1)) [.text e.2] [] []

theorem run_linkBody_choicesOf (site : Site) (texts : List (String × String)) (g : Gathered) :
    (linkBody site (choicesOf texts)).run g = .ok (texts.map (choiceNode site.env.place), g) := by
  induction texts with
  | nil => rfl
  | cons e texts ih =>
      have htest : (Site.expr { site with inChoice := true } (.var e.1)).run g = .ok (.var (site.env.place e.1), g) :=
        (run_bind_ok (run_check_var { site with inChoice := true } (site.env.place e.1) g)).trans rfl
      have hchoice : (linkStmt site (.choice (.var e.1) [.output [.data e.2]] [] [])).run g =
          .ok ([choiceNode site.env.place e], g) := by
        simp only [linkStmt]
        exact (run_bind_ok htest).trans rfl
      exact (run_bind_ok hchoice).trans ((run_bind_ok ih).trans rfl)

/-- A snippet without parameters, which nothing is given to. -/
def plainSnippet (numbers : List Nat) (body : List Node) : Snippet :=
  { name := none, params := [], defaults := [], callerSlot := none, namedSlot := none, restSlot := none
    scope := numbers.map .outside, body }

theorem specialSlot?_eq_none {ns : Names} {params : List String} {body : List Stmt} {x : String}
    (h : firstRead x body = false) : specialSlot? ns params body x = none := by
  unfold specialSlot?
  rw [h]
  rfl

/-- **Linking a clause.** It becomes a snippet, in which the slot of a variable is filled from the external of its
name. -/
theorem link_clauseOf (kind : ClauseKind) (strict : Bool) (line : Nat) (hself : "self" ∉ guardsOf texts)
    (hspecial : ∀ x ∈ guardsOf texts, x ∉ specialNames) :
    ∃ (program : Program) (place : String → Place) (numbers : List Nat),
      link strict (clauseOf kind texts line) = .ok program ∧ program.scope = [] ∧ program.body = [.clause kind 0] ∧
      program.snippets = [plainSnippet numbers (texts.map (choiceNode place))] ∧
      ∀ x ∈ guardsOf texts, (place x).depth = 0 ∧ (place x).name = x ∧
        ∃ i, numbers[(place x).slot]? = some i ∧ program.externals[i]? = some x := by
  let ns := (guardsOf texts).foldl (Names.read []) {}
  let site : Site := { env := [[]], stored := [], root := {}, inChoice := false, strict }
  let inside := site.inner ns
  have hns : ns.OnlyReads := Names.onlyReads_empty.foldl_read [] _
  obtain ⟨numbers, externals, hclose, hnumbers⟩ := run_close site ns.stored hns.outside {}
  let snippet := plainSnippet numbers (texts.map (choiceNode inside.env.place))
  let program : Program :=
    { externals := [] ++ externals, scope := [], body := [.clause kind 0], loops := [], snippets := [snippet] }
  have hsnippet : (linkSnippet site none [] [] (choicesOf texts) line fun s => linkBody s (choicesOf texts)).run {} =
      .ok (0, { externals := [] ++ externals, loops := [], snippets := [snippet] }) := by
    have hfirst : ∀ x ∈ specialNames, firstRead x (choicesOf texts) = false := fun x hx => firstRead_special hspecial hx
    have hslot : ∀ x ∈ specialNames, specialSlot? ns [] (choicesOf texts) x = none := fun x hx =>
      specialSlot?_eq_none (hfirst x hx)
    unfold linkSnippet
    rw [snippetNames_choicesOf hspecial, hfirst "caller" (by decide)]
    dsimp only
    rw [if_neg Bool.false_ne_true, hslot "caller" (by decide), hslot "kwargs" (by decide), hslot "varargs" (by decide)]
    rw [run_bind_ok hclose, run_bind_ok rfl, run_bind_ok (run_linkBody_choicesOf inside texts _)]
    rfl
  refine ⟨program, inside.env.place, numbers, ?_, rfl, rfl, rfl, fun x hx => ?_⟩
  · have hbody : (linkBody { env := [({} : Names).names], stored := [], root := {}, inChoice := false, strict }
        [.clause kind (choicesOf texts) line]).run {} =
          .ok ([.clause kind 0], { externals := [] ++ externals, loops := [], snippets := [snippet] }) :=
      (run_bind_ok (run_bind_ok hsnippet)).trans rfl
    unfold link
    rw [repeatedBlock?_of_reads (mentionsAll_clauseOf true line),
      firstRead_of_not_mem (mentionsAll_clauseOf false line) hself]
    simp only [Bool.false_eq_true, if_false, clauseOf, Names.ofBody, Names.ofStmt]
    rw [run_bind_ok rfl, run_bind_ok hbody]
    rfl
  · obtain ⟨slot, hplace, hslot⟩ := place_of_mem [[]] (mem_names_of_mem {} (Or.inl hx))
    have hinside : inside.env.place x = ⟨0, slot, x⟩ := hplace
    rw [hinside]
    exact ⟨rfl, rfl, hnumbers slot x hslot⟩

end Linking

end SqlMapper.Template
