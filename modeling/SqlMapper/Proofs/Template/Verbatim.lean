import SqlMapper.Proofs.Template.ClauseText
import SqlMapper.Proofs.Template.Rendering
/-!
# SqlMapper.Proofs.Template.Verbatim

Templates without marks. Such a template is one text, or none at all, so its program looks up nothing and writes that
text for whatever it is given (`compile_of_not_hasMark`). The text is the source as its reader prepares it: line ends
are unified, and the last one is dropped. A trimmed source ends in none (`prepare_of_trim`).
-/

namespace SqlMapper.Template

open SqlMapper.Text

/-- A template that expects nothing, and is written as one text whatever it is given. -/
structure Verbatim (t : Template) (text : String) : Prop where
  parameters : t.parameters = []
  render : ∀ params, t.render params = .ok text

/-- A source as the reader prepares it. -/
def preparedText (source : String) : String := String.ofList (prepare source.toList)

/-- A text with all its line ends as line feeds. -/
def unifiedText (s : String) : String := String.ofList (unifyLineEnds s.toList)

/-! ### Trimmed sources -/

theorem getLast?_ne_of_trim {cs : List Char} (h : trim cs = cs) {c : Char} (hc : isBlank c = true) :
    cs.getLast? ≠ some c := by
  intro hlast
  obtain ⟨ds, rfl⟩ := List.getLast?_eq_some_iff.mp hlast
  have hend := isBlank_getLast_of_trim h (by simp)
  rw [List.getLast_append_singleton, hc] at hend
  cases hend

/-- No line end is dropped from a trimmed source. -/
theorem prepare_of_trim {cs : List Char} (h : trim cs = cs) : prepare cs = unifyLineEnds cs := by
  have hlast : (unifyLineEnds cs).getLast? ≠ some '\n' := by
    rw [getLast?_unifyLineEnds, ne_eq, Option.map_eq_some_iff]
    rintro ⟨c, hc, hunified⟩
    have hblank : isBlank c = true := by
      unfold unifiedChar at hunified
      split at hunified
      · next hreturn => rw [hreturn]; decide
      · rw [hunified]; decide
    exact getLast?_ne_of_trim h hblank hc
  rcases dropLastLineEnd_cases (unifyLineEnds cs) with hcut | ⟨hsame, -⟩
  · exact absurd (by rw [hcut, List.getLast?_concat]) hlast
  · exact hsame

theorem preparedText_of_trim {source : String} (h : trim source.toList = source.toList) :
    preparedText source = unifiedText source := by
  rw [preparedText, prepare_of_trim h, unifiedText]

/-! ### Sources without marks -/

/-- The program of a text. -/
def textProgram (cs : List Char) : Program :=
  { externals := [], scope := [], loops := [], snippets := []
    body := if cs.isEmpty then [] else [.text (String.ofList cs)] }

theorem link_dataPieces (strict : Bool) (cs : List Char) :
    link strict (outputOf (dataPieces cs)) = .ok (textProgram cs) := by
  cases cs with
  | nil => rfl
  | cons c cs => rfl

theorem parameters_textProgram (cs : List Char) (known : List String) : (textProgram cs).parameters known = [] := by
  unfold Program.parameters sortNames
  exact List.mergeSort_nil

theorem run_textProgram (cs : List Char) (outside : List (Option Value)) (strict : Bool) (fuel : Nat) :
    Context.run ⟨textProgram cs, outside, strict⟩ (fuel + 2) = .ok (String.ofList cs) := by
  -- there are no variables, so any places and values for them will do
  let place (x : String) : Place := ⟨0, 0, x⟩
  let v (x : String) : String := x
  have hbody : (textProgram cs).body = (dataPieces cs).map (nodeOf place) := by
    cases cs <;> rfl
  have hscope : (textProgram cs).scope = ([] : List Nat).map .outside := rfl
  have hrun : Context.run ⟨textProgram cs, outside, strict⟩ (fuel + 2) =
      .ok ((dataPieces cs).foldl (fun out p => out ++ p.filled v) "") := by
    refine run_program hscope hbody (fun p => isSimple_of_mem_dataPieces) fun x hx => ?_
    rw [printedIn_dataPieces] at hx
    cases hx
  rwa [foldl_dataPieces, String.empty_append] at hrun

/-- **A source without marks is written as it is.** -/
theorem compile_of_not_hasMark {source : String} (plain : hasMark source.toList = false)
    (context : List (String × Value)) (strict : Bool) (preview : String) :
    ∃ t, compile source context strict preview = .ok t ∧ t.Verbatim (preparedText source) := by
  have hsource : (Outline.last source.toList plain).source = source := String.ofList_toList
  have hparse : parse source = .ok (outputOf (dataPieces (prepare source.toList))) := by
    have h := (Outline.last source.toList plain).parse_source
    rwa [hsource] at h
  have simple : ∀ p ∈ (dataPieces (prepare source.toList) : List (Piece String)), p.isSimple = true :=
    fun p => isSimple_of_mem_dataPieces
  refine ⟨_, compile_of_foldBody_eq hparse (link_dataPieces strict _) (foldBody_outputOf strict simple), ?_, ?_⟩
  · exact parameters_textProgram _ _
  · exact fun params => render_eq_ok_iff.mpr (run_textProgram _ _ _ _)

end SqlMapper.Template
