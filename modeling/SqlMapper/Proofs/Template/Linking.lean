import SqlMapper.Template.Folding
import SqlMapper.Proofs.Template.Parsing
/-!
# SqlMapper.Proofs.Template.Linking

Linking pieces that are texts and variables (`link_outputOf`). Every variable is looked up outside, so the
outermost scope has a slot for each that is filled from the external of its name; the slots and the externals
need not be numbered alike. Nothing is refused, since no filter and no test is mentioned, and nothing is
constant.
-/

namespace SqlMapper.Template

/-- The variable that a piece prints, if it prints one. -/
def Piece.variable? {ν : Type} : Piece ν → Option ν
  | .print (.var x) => some x
  | _ => none

/-- Is a piece a text or a printed variable other than the template's name for itself? -/
def Piece.isSimple : Piece String → Bool
  | .data _ => true
  | .print (.var x) => x != "self"
  | .print _ => false

/-- The variables that pieces print. -/
def printedIn (pieces : List (Piece String)) : List String := pieces.filterMap Piece.variable?

variable {pieces : List (Piece String)}

@[simp] theorem printedIn_nil : printedIn [] = [] := rfl

@[simp] theorem printedIn_data (s : String) : printedIn (.data s :: pieces) = printedIn pieces := rfl

@[simp] theorem printedIn_var (x : String) :
    printedIn (.print (.var x) :: pieces) = x :: printedIn pieces := rfl

/-- A simple piece is a text or a printed variable. -/
theorem Piece.isSimple_cases {p : Piece String} (h : p.isSimple = true) :
    (∃ s, p = .data s) ∨ ∃ x, p = .print (.var x) := by
  cases p with
  | data s => exact .inl ⟨s, rfl⟩
  | print e =>
      cases e with
      | var x => exact .inr ⟨x, rfl⟩
      | _ => cases h

theorem ne_self_of_mem_printedIn (simple : ∀ p ∈ pieces, p.isSimple = true) {x : String}
    (hx : x ∈ printedIn pieces) : x ≠ "self" := by
  obtain ⟨p, hp, hvar⟩ := List.mem_filterMap.mp hx
  have hsimple := simple p hp
  unfold Piece.variable? at hvar
  split at hvar
  · cases hvar
    simpa [Piece.isSimple] using hsimple
  · cases hvar

/-! ### What is mentioned -/

@[simp] theorem reads_var {ν : Type} (x : ν) : (Expr.var x).reads = [x] := by
  simp [Expr.reads, Expr.walk]

/-- Simple pieces only read. -/
theorem mentions_output (insideBlocks : Bool) (simple : ∀ p ∈ pieces, p.isSimple = true) :
    (Stmt.output pieces).mentions insideBlocks = (printedIn pieces).map .read := by
  induction pieces with
  | nil => simp [Stmt.mentions]
  | cons p pieces ih =>
      have hrest := ih fun p hp => simple p (List.mem_cons_of_mem _ hp)
      simp only [Stmt.mentions, List.flatMap_cons] at hrest ⊢
      rw [hrest]
      rcases Piece.isSimple_cases (simple p List.mem_cons_self) with ⟨s, rfl⟩ | ⟨x, rfl⟩
      · simp
      · simp [Expr.mentions]

theorem mentionsAll_outputOf (insideBlocks : Bool) (simple : ∀ p ∈ pieces, p.isSimple = true) :
    mentionsAll insideBlocks (outputOf pieces) = (printedIn pieces).map .read := by
  unfold outputOf
  split
  case isTrue hempty =>
      rw [List.isEmpty_iff] at hempty
      subst hempty
      rfl
  case isFalse => simp [mentionsAll, mentions_output insideBlocks simple]

/-- Statements that only read define no blocks. -/
theorem repeatedBlock?_of_reads {body : List Stmt} {names : List String}
    (h : mentionsAll true body = names.map .read) : repeatedBlock? body = none := by
  have hblocks : ∀ f : Mention → Option (String × Nat), (∀ x, f (.read x) = none) →
      (names.map Mention.read).filterMap f = [] := by
    intro f hf
    rw [List.filterMap_map, List.filterMap_eq_nil_iff]
    exact fun x _ => hf x
  unfold repeatedBlock?
  rw [h, hblocks _ fun _ => rfl]
  rfl

theorem firstRead_of_not_mem {body : List Stmt} {names : List String} {x : String}
    (h : mentionsAll false body = names.map .read) (hx : x ∉ names) : firstRead x body = false := by
  unfold firstRead
  rw [h, List.find?_eq_none.mpr]
  intro m hm
  obtain ⟨y, hy, rfl⟩ := List.mem_map.mp hm
  simpa using ne_of_mem_of_not_mem hy hx

theorem repeatedBlock?_outputOf (simple : ∀ p ∈ pieces, p.isSimple = true) :
    repeatedBlock? (outputOf pieces) = none :=
  repeatedBlock?_of_reads (mentionsAll_outputOf true simple)

theorem firstRead_self_outputOf (simple : ∀ p ∈ pieces, p.isSimple = true) :
    firstRead "self" (outputOf pieces) = false :=
  firstRead_of_not_mem (mentionsAll_outputOf false simple) fun h => ne_self_of_mem_printedIn simple h rfl

/-! ### Scopes -/

/-- The variables of the outermost scope of pieces. -/
def namesOf (pieces : List (Piece String)) : Names := (printedIn pieces).foldl (Names.read []) {}

theorem ofStmt_output (simple : ∀ p ∈ pieces, p.isSimple = true) (ns : Names) :
    Names.ofStmt [] ns (.output pieces) = (printedIn pieces).foldl (Names.read []) ns := by
  induction pieces generalizing ns with
  | nil => simp [Names.ofStmt]
  | cons p pieces ih =>
      simp only [Names.ofStmt, List.foldl_cons] at ih ⊢
      rw [ih fun p hp => simple p (List.mem_cons_of_mem _ hp)]
      rcases Piece.isSimple_cases (simple p List.mem_cons_self) with ⟨s, rfl⟩ | ⟨x, rfl⟩
      · simp
      · simp [Names.readAll]

theorem ofBody_outputOf (simple : ∀ p ∈ pieces, p.isSimple = true) :
    Names.ofBody [] {} (outputOf pieces) = namesOf pieces := by
  unfold outputOf namesOf
  split
  case isTrue hempty =>
      rw [List.isEmpty_iff] at hempty
      subst hempty
      simp [Names.ofBody]
  case isFalse => simp [Names.ofBody, ofStmt_output simple]

/-- Reading a name outside of all scopes adds a slot for it, unless there is one. -/
theorem slots_read (ns : Names) (x : String) :
    (ns.read [] x).slots = if ns.has x then ns.slots else ns.slots ++ [(x, .outside)] := by
  unfold Names.read Names.put
  cases ns.has x <;> simp [Enclosing.has]

/-- A scope in which names are read and none is assigned to. -/
structure Names.OnlyReads (ns : Names) : Prop where
  outside : ∀ p ∈ ns.slots, p.2 = .outside
  stored : ns.stored = []

theorem Names.onlyReads_empty : Names.OnlyReads {} := ⟨by simp, rfl⟩

theorem Names.OnlyReads.read {ns : Names} (h : ns.OnlyReads) (outer : Enclosing) (x : String) :
    (ns.read outer x).OnlyReads := by
  unfold Names.read Names.put
  split
  · exact h
  case isFalse hnone =>
      have hhas : ns.has x = false := (Bool.or_eq_false_iff.mp (Bool.eq_false_iff.mpr hnone)).1
      rw [hhas]
      refine ⟨fun p hp => ?_, h.stored⟩
      rcases List.mem_append.mp hp with hp | hp
      · exact h.outside p hp
      · rw [List.mem_singleton.mp hp]

theorem Names.OnlyReads.foldl_read {ns : Names} (h : ns.OnlyReads) (outer : Enclosing) (xs : List String) :
    (xs.foldl (Names.read outer) ns).OnlyReads := by
  induction xs generalizing ns with
  | nil => exact h
  | cons x xs ih => exact ih (h.read outer x)

/-- A scope has a slot for every name that is read. -/
theorem mem_names_of_mem {xs : List String} (ns : Names) {x : String} (hx : x ∈ xs ∨ x ∈ ns.names) :
    x ∈ (xs.foldl (Names.read []) ns).names := by
  induction xs generalizing ns with
  | nil => simpa using hx
  | cons y xs ih =>
      refine ih _ ?_
      rw [List.mem_cons, or_assoc] at hx
      rcases hx with rfl | hx | hx
      · right
        unfold Names.names
        rw [slots_read]
        cases h : ns.has x with
        | true => simpa [Names.has, Names.names] using h
        | false => simp
      · exact Or.inl hx
      · right
        unfold Names.names at hx ⊢
        rw [slots_read]
        split
        · exact hx
        · rw [List.map_append]
          exact List.mem_append_left _ hx

/-! ### Externals -/

variable {g : Gathered}

/-- The place of a name in a list holds the name. -/
theorem getElem?_of_idxOf? {xs : List String} {x : String} {i : Nat} (h : xs.idxOf? x = some i) :
    xs[i]? = some x := by
  obtain ⟨hi, hx, -⟩ := List.idxOf?_eq_some_iff.mp h
  rw [List.getElem?_eq_getElem hi, hx]

/-- Asking for the number of an external gives it one, and the others keep theirs. -/
theorem run_external (x : String) (g : Gathered) : ∃ i more,
    (external x).run g = .ok (i, { g with externals := g.externals ++ more }) ∧
      (g.externals ++ more)[i]? = some x := by
  unfold external
  cases h : g.externals.idxOf? x with
  | some i =>
      refine ⟨i, [], ?_, by rw [List.append_nil, getElem?_of_idxOf? h]⟩
      rw [run_bind_ok (show (get : Link Gathered).run g = .ok (g, g) from rfl), h, List.append_nil]
      rfl
  | none =>
      refine ⟨g.externals.length, [x], ?_, by simp⟩
      rw [run_bind_ok (show (get : Link Gathered).run g = .ok (g, g) from rfl), h]
      rfl

/-- The slots of a scope that looks all its variables up outside. -/
theorem run_close (site : Site) {slots : List (String × Source)} (stored : List String)
    (h : ∀ p ∈ slots, p.2 = .outside) (g : Gathered) :
    ∃ (numbers : List Nat) (more : List String),
      (site.close ⟨slots, stored⟩).run g =
        .ok (numbers.map .outside, { g with externals := g.externals ++ more }) ∧
      ∀ (k : Nat) (x : String), (slots.map (·.1))[k]? = some x →
        ∃ i, numbers[k]? = some i ∧ (g.externals ++ more)[i]? = some x := by
  unfold Site.close
  induction slots generalizing g with
  | nil =>
      refine ⟨[], [], ?_, by simp⟩
      rw [List.append_nil]
      rfl
  | cons p slots ih =>
      obtain ⟨y, source⟩ := p
      have hsource : source = .outside := h (y, source) List.mem_cons_self
      subst hsource
      obtain ⟨i, first, hfirst, hi⟩ := run_external y g
      obtain ⟨numbers, more, hrest, hnumbers⟩ := ih (fun p hp => h p (List.mem_cons_of_mem _ hp))
        { g with externals := g.externals ++ first }
      refine ⟨i :: numbers, first ++ more, ?_, ?_⟩
      · rw [List.mapM_cons, run_bind_ok (run_bind_ok hfirst), run_bind_ok hrest]
        simp
        rfl
      · intro k x hk
        rw [← List.append_assoc]
        cases k with
        | zero =>
            -- later slots only add externals, so the first one's number stays right
            have hx : y = x := by simpa using hk
            subst hx
            refine ⟨i, rfl, ?_⟩
            obtain ⟨hlt, -⟩ := List.getElem?_eq_some_iff.mp hi
            rw [List.getElem?_append_left hlt, hi]
        | succ k => exact hnumbers k x (by simpa using hk)

/-! ### Pieces -/

/-- The node of a piece, with the places of variables given. -/
def nodeOf (place : String → Place) : Piece String → Node
  | .data s => .text s
  | .print (.var x) => .print (.var (place x))
  | .print _ => .text ""

/-- A variable is not constant. -/
theorem constantText?_var (strict : Bool) (p : Place) : constantText? strict (.var p) = none := rfl

/-- Of a variable that is printed, nothing is taken out. -/
theorem foldBody_outputOf (strict : Bool) (simple : ∀ p ∈ pieces, p.isSimple = true) :
    foldBody strict (outputOf pieces) = outputOf pieces := by
  have hpieces : pieces.map (Piece.folded strict) = pieces := by
    refine (List.map_congr_left fun p hp => ?_).trans (List.map_id pieces)
    rcases Piece.isSimple_cases (simple p hp) with ⟨s, rfl⟩ | ⟨x, rfl⟩
    · rfl
    · rfl
  unfold outputOf
  split
  · rfl
  · simp only [foldBody, Stmt.folded, hpieces]

/-- A variable has no filters or tests that could be refused. -/
theorem run_check_var (site : Site) (p : Place) (g : Gathered) :
    (site.check (.var p)).run g = .ok (⟨⟩, g) := by
  refine run_forM_of_forall fun m hm => ?_
  have hvar : m.2 = .var p := by
    unfold Expr.walk at hm
    split at hm
    · cases hm
    · rw [List.mem_singleton.mp hm]
  obtain ⟨inChoice, e⟩ := m
  subst hvar
  cases inChoice <;> rfl

theorem run_output (site : Site) (simple : ∀ p ∈ pieces, p.isSimple = true) (g : Gathered) :
    (site.output pieces).run g = .ok (pieces.map (nodeOf site.env.place), g) := by
  unfold Site.output
  refine (run_bind_ok (run_mapM_of_forall (h := nodeOf site.env.place) fun p hp => ?_)).trans
    ((run_bind_ok (run_forM_of_forall fun n hn => ?_)).trans rfl)
  · rcases Piece.isSimple_cases (simple p hp) with ⟨s, rfl⟩ | ⟨x, rfl⟩
    · rfl
    · simp only [Expr.resolve, constantText?_var]
      rfl
  · obtain ⟨p, hp, rfl⟩ := List.mem_map.mp hn
    rcases Piece.isSimple_cases (simple p hp) with ⟨s, rfl⟩ | ⟨x, rfl⟩
    · rfl
    · exact run_check_var site _ g

/-- The place of a name in the innermost scope. -/
theorem place_of_mem {names : List String} {x : String} (outer : Enclosing) (h : x ∈ names) :
    ∃ slot, Enclosing.place (names :: outer) x = ⟨0, slot, x⟩ ∧ names[slot]? = some x := by
  obtain ⟨slot, hslot⟩ := Option.isSome_iff_exists.mp
    (Option.isSome_iff_ne_none.mpr fun hnone => List.idxOf?_eq_none_iff.mp hnone h)
  refine ⟨slot, ?_, getElem?_of_idxOf? hslot⟩
  simp [Enclosing.place, Enclosing.find?, hslot]

/-- **Linking pieces that are texts and variables.** Every slot of the outermost scope is filled from outside,
and a printed variable is the slot that is filled from the external of its name. -/
theorem link_outputOf (strict : Bool) (simple : ∀ p ∈ pieces, p.isSimple = true) :
    ∃ (program : Program) (place : String → Place) (numbers : List Nat),
      link strict (outputOf pieces) = .ok program ∧
      program.scope = numbers.map .outside ∧ program.body = pieces.map (nodeOf place) ∧
      ∀ x ∈ printedIn pieces, (place x).depth = 0 ∧
        ∃ i, numbers[(place x).slot]? = some i ∧ program.externals[i]? = some x := by
  let ns := namesOf pieces
  let site : Site := { env := [ns.names], stored := ns.stored, root := ns, inChoice := false, strict }
  have hns : ns.OnlyReads := Names.onlyReads_empty.foldl_read [] _
  obtain ⟨numbers, externals, hclose, hnumbers⟩ :=
    run_close { site with env := [] } ns.stored hns.outside {}
  let gathered : Gathered := { externals := [] ++ externals }
  have hbody : (linkBody site (outputOf pieces)).run gathered =
      .ok (pieces.map (nodeOf site.env.place), gathered) := by
    unfold outputOf
    split
    case isTrue hempty =>
        rw [List.isEmpty_iff] at hempty
        subst hempty
        rfl
    case isFalse =>
        have hall : (linkBody site [.output pieces]).run gathered =
            .ok (pieces.map (nodeOf site.env.place) ++ [], gathered) :=
          (run_bind_ok (run_output site simple gathered)).trans rfl
        rwa [List.append_nil] at hall
  let program : Program :=
    { externals := gathered.externals
      scope := numbers.map .outside
      body := pieces.map (nodeOf site.env.place)
      loops := []
      snippets := [] }
  refine ⟨program, site.env.place, numbers, ?_, rfl, rfl, fun x hx => ?_⟩
  · unfold link
    rw [repeatedBlock?_outputOf simple, firstRead_self_outputOf simple]
    simp only [Bool.false_eq_true, if_false, ofBody_outputOf simple]
    rw [run_bind_ok hclose, run_bind_ok hbody]
    rfl
  · obtain ⟨slot, hplace, hslot⟩ := place_of_mem [] (mem_names_of_mem {} (Or.inl hx))
    have hsite : site.env.place x = ⟨0, slot, x⟩ := hplace
    rw [hsite]
    exact ⟨rfl, hnumbers slot x hslot⟩

end SqlMapper.Template
