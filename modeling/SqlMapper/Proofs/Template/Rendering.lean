import SqlMapper.Proofs.Template.Compiling
import SqlMapper.Proofs.Template.Linking
/-!
# SqlMapper.Proofs.Template.Rendering

An outline compiles, and its text with parameters is its own texts with the literals of the parameters' values
in between (`Outline.compiles`).
-/

namespace SqlMapper.Template

/-- The text of an outline when each variable is a text. -/
def Outline.filled (v : String → String) : Outline → List Char
  | last cs _ => cs
  | output cs x _ _ _ more => cs ++ Sql.quoteChars (v x).toList ++ more.filled v

/-! ### The pieces of an outline -/

theorem isSimple_of_mem_dataPieces {cs : List Char} {p : Piece String} (h : p ∈ dataPieces cs) :
    p.isSimple = true := by
  unfold dataPieces at h
  split at h
  · cases h
  · rw [List.mem_singleton.mp h]
    rfl

theorem Outline.isSimple_of_mem_pieces {o : Outline} {p : Piece String} (h : p ∈ o.pieces) :
    p.isSimple = true := by
  induction o with
  | last cs => exact isSimple_of_mem_dataPieces h
  | output cs x hx _ _ more ih =>
      simp only [pieces, List.mem_append, List.mem_cons] at h
      rcases h with h | rfl | h
      · exact isSimple_of_mem_dataPieces h
      · unfold isVariable at hx
        simp only [Bool.and_eq_true] at hx
        exact hx.2
      · exact ih h

theorem printedIn_append (ps qs : List (Piece String)) :
    printedIn (ps ++ qs) = printedIn ps ++ printedIn qs :=
  List.filterMap_append

@[simp] theorem printedIn_dataPieces (cs : List Char) : printedIn (dataPieces cs) = [] := by
  unfold dataPieces
  split <;> rfl

theorem Outline.printedIn_pieces (o : Outline) : printedIn o.pieces = o.printed := by
  induction o with
  | last cs => exact printedIn_dataPieces cs
  | output cs x _ _ _ more ih =>
      rw [pieces, printedIn_append, printedIn_dataPieces, printedIn_var, ih]
      rfl

/-- The text of a piece when each variable is a text. -/
def Piece.filled (v : String → String) : Piece String → String
  | .data s => s
  | .print (.var x) => Sql.quote (v x)
  | .print _ => ""

theorem foldl_dataPieces (v : String → String) (cs : List Char) (out : String) :
    (dataPieces cs).foldl (fun out p => out ++ p.filled v) out = out ++ String.ofList cs := by
  unfold dataPieces
  split
  case isTrue hempty =>
      rw [List.isEmpty_iff] at hempty
      simp [hempty]
  case isFalse => rfl

theorem Outline.foldl_pieces (o : Outline) (v : String → String) (out : String) :
    o.pieces.foldl (fun out p => out ++ p.filled v) out = out ++ String.ofList (o.filled v) := by
  induction o generalizing out with
  | last cs => exact foldl_dataPieces v cs out
  | output cs x _ _ _ more ih =>
      rw [pieces, List.foldl_append, foldl_dataPieces, List.foldl_cons, ih, filled, Piece.filled, Sql.quote,
        String.ofList_append, String.ofList_append, String.append_assoc, String.append_assoc]
      simp only [String.append_assoc]

theorem Outline.printed_prepared (o : Outline) : o.prepared.printed = o.printed := by
  induction o with
  | last => rfl
  | output cs x _ _ _ more ih => rw [prepared, printed, printed, ih]

/-! ### Running pieces -/

section Run

variable {ctx : Context} {s : Store} {slots : List (Option Value)} {place : String → Place}

theorem run_slot {ref k : Nat} (h : s.cells[ref]? = some (.frame slots)) :
    (Store.slot ref k).run s = .ok ((slots[k]?).join, s) := by
  have hget : (Store.get ref).run s = .ok (.frame slots, s) := by
    have hcell : s.cells.getD ref (.frame []) = .frame slots := by
      rw [Array.getD_eq_getD_getElem?, h]
      rfl
    rw [← hcell]
    rfl
  unfold Store.slot
  rw [run_bind_ok hget]
  rfl

/-- A variable in the innermost frame: what its slot holds, or an absent value. -/
theorem run_eval_var {fuel ref : Nat} {outer : Frames} {p : Place} (hframe : s.cells[ref]? = some (.frame slots))
    (hdepth : p.depth = 0) :
    (eval ctx (fuel + 1) (ref :: outer) (.var p)).run s =
      .ok ((slots[p.slot]?).join.getD (ctx.absent (.variable p.name)), s) := by
  have hcontents : (p.contents (ref :: outer)).run s = .ok ((slots[p.slot]?).join, s) := by
    unfold Place.contents
    rw [hdepth]
    exact run_slot hframe
  have hread : (p.read ctx (ref :: outer)).run s =
      .ok ((slots[p.slot]?).join.getD (ctx.absent (.variable p.name)), s) := by
    unfold Place.read
    rw [run_bind_ok hcontents]
    rfl
  rw [eval, evalExpr]
  exact hread

/-- Statements in a row, none of which changes anything. -/
theorem run_execAll_map {α : Type} {below : Meaning} {frames : Frames} {node : α → Node} {text : α → String}
    {as : List α} (h : ∀ a ∈ as, (execNode ctx below frames (node a)).run s = .ok (text a, s)) :
    (execAll ctx below frames (as.map node)).run s = .ok (as.foldl (fun out a => out ++ text a) "", s) := by
  unfold execAll
  generalize "" = out
  induction as generalizing out with
  | nil => rfl
  | cons a as ih =>
      obtain ⟨hfirst, hrest⟩ := List.forall_mem_cons.mp h
      rw [List.map_cons, List.foldlM_cons]
      exact (run_bind_ok (run_bind_ok hfirst)).trans (ih hrest _)

/-- The text of pieces in the outermost frame. -/
theorem run_exec {fuel root : Nat} {pieces : List (Piece String)} {v : String → String}
    (simple : ∀ p ∈ pieces, p.isSimple = true) (hroot : s.cells[root]? = some (.frame slots))
    (hv : ∀ x ∈ printedIn pieces,
      (place x).depth = 0 ∧ slots[(place x).slot]? = some (some (.str (v x)))) :
    (exec ctx (fuel + 2) [root] (pieces.map (nodeOf place))).run s =
      .ok (pieces.foldl (fun out p => out ++ p.filled v) "", s) := by
  rw [exec]
  refine run_execAll_map fun p hp => ?_
  rcases Piece.isSimple_cases (simple p hp) with ⟨d, rfl⟩ | ⟨x, rfl⟩
  · rfl
  · obtain ⟨hdepth, hslot⟩ := hv x (List.mem_filterMap.mpr ⟨_, hp, rfl⟩)
    have hvalue : (eval ctx (fuel + 1) [root] (.var (place x))).run s = .ok (.str (v x), s) := by
      rw [run_eval_var hroot hdepth, hslot]
      rfl
    exact (run_bind_ok hvalue).trans rfl

/-- Entering a scope whose slots are all filled from outside. -/
theorem run_enter (frames : Frames) (numbers : List Nat) (s : Store) :
    (Scope.enter ctx frames (numbers.map .outside)).run s =
      .ok (s.cells.size, { cells := s.cells.push (.frame (numbers.map fun i => (ctx.outside[i]?).join)) }) := by
  have hslots : ((numbers.map Origin.outside).mapM (Origin.initial ctx frames)).run s =
      .ok (numbers.map fun i => (ctx.outside[i]?).join, s) := by
    rw [List.mapM_map]
    exact run_mapM_of_forall fun i _ => rfl
  unfold Scope.enter
  rw [run_bind_ok hslots]
  rfl

/-- A program that fills all slots of its outermost scope from outside and writes pieces. -/
theorem run_program {fuel : Nat} {numbers : List Nat} {pieces : List (Piece String)} {v : String → String}
    (hscope : ctx.program.scope = numbers.map .outside) (hbody : ctx.program.body = pieces.map (nodeOf place))
    (simple : ∀ p ∈ pieces, p.isSimple = true)
    (hv : ∀ x ∈ printedIn pieces, (place x).depth = 0 ∧
      ∃ i, numbers[(place x).slot]? = some i ∧ ctx.outside[i]? = some (some (.str (v x)))) :
    ctx.run (fuel + 2) = .ok (pieces.foldl (fun out p => out ++ p.filled v) "") := by
  let slots := numbers.map fun i => (ctx.outside[i]?).join
  have hslots : ∀ x ∈ printedIn pieces,
      (place x).depth = 0 ∧ slots[(place x).slot]? = some (some (.str (v x))) := by
    intro x hx
    obtain ⟨hdepth, i, hi, hvalue⟩ := hv x hx
    exact ⟨hdepth, by simp [slots, hi, hvalue]⟩
  have henter : (Scope.enter ctx [] (numbers.map .outside)).run {} = .ok (0, { cells := #[.frame slots] }) :=
    run_enter [] numbers {}
  have hexec : (exec ctx (fuel + 2) [0] (pieces.map (nodeOf place))).run { cells := #[.frame slots] } =
      .ok (pieces.foldl (fun out p => out ++ p.filled v) "", { cells := #[.frame slots] }) :=
    run_exec simple rfl hslots
  have hwhole : (do
      let root ← Scope.enter ctx [] (numbers.map .outside)
      exec ctx (fuel + 2) [root] (pieces.map (nodeOf place)) : Run String) {} = _ :=
    (run_bind_ok henter).trans hexec
  unfold Context.run
  rw [hscope, hbody]
  dsimp only
  rw [hwhole]

end Run

/-- **An outline compiles, and its text is its own texts with literals in between.** -/
theorem Outline.compiles (o : Outline) (context : List (String × Value)) (strict : Bool) :
    ∃ t, compile o.source context strict = .ok t ∧ ∀ params v,
      (∀ x ∈ o.printed, param? params x = some (.str (v x))) →
        t.render params = .ok (String.ofList (o.prepared.filled v)) := by
  have simple : ∀ p ∈ o.prepared.pieces, p.isSimple = true := fun p => isSimple_of_mem_pieces
  obtain ⟨program, place, numbers, hlink, hscope, hbody, hplaces⟩ := link_outputOf strict simple
  let t : Template :=
    { source := o.source, preview := previewOf o.source, context, strict, program
      parameters := program.parameters (context.map (·.1)) }
  have hcompile : compile o.source context strict = .ok t :=
    compile_of_foldBody_eq o.parse_source hlink (foldBody_outputOf strict simple)
  refine ⟨t, hcompile, fun params v hparams => ?_⟩
  have hv : ∀ x ∈ printedIn o.prepared.pieces, (place x).depth = 0 ∧
      ∃ i, numbers[(place x).slot]? = some i ∧
        (program.externals.map (t.lookup params))[i]? = some (some (.str (v x))) := by
    intro x hx
    obtain ⟨hdepth, i, hi, hexternal⟩ := hplaces x hx
    rw [printedIn_pieces, printed_prepared] at hx
    -- a name that is given is taken as given, whatever the context has under it
    have hlookup : t.lookup params x = some (.str (v x)) := by
      rw [lookup, hparams x hx]
      rfl
    exact ⟨hdepth, i, hi, by simp [hexternal, hlookup]⟩
  have hrun : Context.run ⟨program, program.externals.map (t.lookup params), strict⟩ renderFuel = _ :=
    run_program hscope hbody simple hv
  rw [Outline.foldl_pieces, String.empty_append] at hrun
  exact render_eq_ok_iff.mpr hrun

end SqlMapper.Template
