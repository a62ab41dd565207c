import SqlMapper.Template.Render
import SqlMapper.Proofs.Template.PlainText
/-!
# SqlMapper.Proofs.Template.Outline

Templates that are text with printed variables in between (`Outline`), and how they are read. The text has no
opening marks, so a reader sees exactly the parts that the template was put together from (`kinds_tokens`),
but for the line ends: they are unified, and one at the end of the template is dropped (`Outline.prepared`).
-/

namespace SqlMapper.Template

open SqlMapper.Text

/-! ### Outlines -/

/-- May a name stand for any value? The words for constants, the negation and the template's name for itself
may not. -/
def isVariable (x : String) : Bool :=
  isName x.toList && (constantWord? x).isNone && x != "not" && x != "self"

/-- A printed variable, as it is written. -/
def printTag (x : String) : List Char := "\x7b\x7b ".toList ++ x.toList ++ " \x7d\x7d".toList

/-- A template that is text with printed variables in between. -/
inductive Outline
  /-- The text at the end. -/
  | last (cs : List Char) (plain : hasMark cs = false)
  /-- A text, the variable that is printed behind it, and what follows. The text must not make another mark
  together with the one behind it. -/
  | output (cs : List Char) (x : String) (isVariable : isVariable x = true) (plain : hasMark cs = false)
      (apart : cs.getLast? ≠ some openBrace) (more : Outline)

namespace Outline

/-- The texts, of which there is one more than variables. -/
def segments : Outline → List (List Char)
  | last cs _ => [cs]
  | output cs _ _ _ _ more => cs :: more.segments

/-- The variables that are printed, in order. -/
def printed : Outline → List String
  | last .. => []
  | output _ x _ _ _ more => x :: more.printed

/-- The template as it is written. -/
def written : Outline → List Char
  | last cs _ => cs
  | output cs x _ _ _ more => cs ++ printTag x ++ more.written

/-- The source of the template. -/
def source (o : Outline) : String := String.ofList o.written

/-- The outline that is read. -/
def prepared : Outline → Outline
  | last cs plain => .last (dropLastLineEnd (unifyLineEnds cs)) (by
      rw [← hasMark_unifyLineEnds] at plain
      exact hasMark_dropLastLineEnd plain)
  | output cs x isVariable plain apart more =>
    .output (unifyLineEnds cs) x isVariable (by rw [hasMark_unifyLineEnds, plain])
      (fun h => apart ((getLast?_unifyLineEnds_eq_iff (by decide) (by decide)).mp h)) more.prepared

end Outline

theorem isName_of_isVariable {x : String} (h : isVariable x = true) : isName x.toList = true := by
  unfold isVariable at h
  simp only [Bool.and_eq_true] at h
  exact h.1.1.1

/-! ### Inside a tag -/

variable {total fuel line : Nat} {print : Bool} {before c : Char} {rest : List Char}

/-- The mark that closes a tag, up to its brace. -/
def closingMark (print : Bool) : Char := if print then closeBrace else '%'

theorem closing?_of_ne {mark : Char} {plusAllowed : Bool} (hminus : c ≠ '-') (hplus : c ≠ '+')
    (hmark : c ≠ mark) : closing? mark plusAllowed (c :: rest) = none := by
  unfold closing?
  split <;> simp_all

/-- A blank before something else is passed. -/
theorem tokensFrom_blank (hc : isBlank c = false) :
    tokensFrom total (fuel + 1) (.tag print [] before) line (' ' :: c :: rest) =
      tokensFrom total fuel (.tag print [] ' ') line (c :: rest) := by
  have hend : closing? (if print then closeBrace else '%') (!print) (' ' :: c :: rest) = none :=
    closing?_of_ne (by decide) (by decide) (by cases print <;> decide)
  have hblank : isBlank ' ' = true := by decide
  simp [tokensFrom, hend, hblank, dropBlanks, hc, countLines]

/-- A name is taken up to the next blank. -/
theorem tagToken?_name {x : List Char} (hx : isName x = true) (hbefore : before ≠ '.') :
    tagToken? before (x ++ ' ' :: rest) = some (.name (String.ofList x), ' ' :: rest) := by
  obtain ⟨c, cs, rfl, hstart⟩ := exists_cons_of_isName hx
  have hrun : ∀ d ∈ c :: cs, isNameRun d = true := fun d hd => by
    simp [isNameRun, isNameInside_of_isName hx hd]
  have hspace : isNameRun ' ' = false := by decide
  have htake : (c :: cs ++ ' ' :: rest).takeWhile isNameRun = c :: cs := by
    rw [List.takeWhile_append_of_pos hrun]
    simp [hspace]
  have hdrop : (c :: cs ++ ' ' :: rest).dropWhile isNameRun = ' ' :: rest := by
    rw [List.dropWhile_append_of_pos hrun]
    simp [hspace]
  -- no number begins with what begins a name
  obtain ⟨hdigit, hascii⟩ := isDigit_of_isNameStart hstart
  have hfloat : floatLiteral? (c :: cs ++ ' ' :: rest) = none := by
    simp [floatLiteral?, digitGroups?, hdigit]
  have hinteger : integerLiteral? (c :: cs ++ ' ' :: rest) = none := by
    have hzero : c ≠ '0' := ne_of_isNameStart hstart (by decide)
    unfold integerLiteral?
    split <;> simp_all
  rw [List.cons_append] at htake hdrop hfloat hinteger ⊢
  simp only [tagToken?, if_neg hbefore, hfloat, hinteger, if_pos (hrun c List.mem_cons_self), htake,
    hdrop, if_pos hx]

/-- A name is a token. -/
theorem tokensFrom_name {x : List Char} (hx : isName x = true) (hbefore : before ≠ '.') :
    tokensFrom total (fuel + 1) (.tag print [] before) line (x ++ ' ' :: rest) =
      ⟨.name (String.ofList x), line⟩ ::
        tokensFrom total fuel (.tag print [] (x.getLastD ' ')) (line + countLines x) (' ' :: rest) := by
  have htag : tagToken? before (x ++ ' ' :: rest) = _ := tagToken?_name hx hbefore
  have htaken : (x ++ ' ' :: rest).take ((x ++ ' ' :: rest).length - (' ' :: rest).length) = x := by simp
  obtain ⟨c, cs, rfl, hstart⟩ := exists_cons_of_isName hx
  have hend : closing? (if print then closeBrace else '%') (!print) (c :: (cs ++ ' ' :: rest)) = none :=
    closing?_of_ne (ne_of_isNameStart hstart (by decide)) (ne_of_isNameStart hstart (by decide))
      (ne_of_isNameStart hstart (by cases print <;> decide))
  rw [List.cons_append] at htag htaken ⊢
  simp only [tokensFrom, List.isEmpty_nil, if_true, hend, htag, htaken, isBlank_of_isNameStart hstart,
    Bool.false_eq_true, if_false]

/-- The closing mark ends the tag. -/
theorem tokensFrom_close :
    tokensFrom total (fuel + 1) (.tag print [] before) line (closingMark print :: closeBrace :: rest) =
      ⟨if print then .printEnd else .blockEnd, line⟩ :: tokensFrom total fuel .root line rest := by
  have hend : closing? (if print then closeBrace else '%') (!print) (closingMark print :: closeBrace :: rest) =
      some rest := by
    cases print <;> simp [closing?, closingMark, closeBrace]
  have hlines : countLines (closingMark print :: closeBrace :: rest) = countLines rest := by
    cases print <;> simp [countLines, closingMark, closeBrace]
  simp only [tokensFrom, List.isEmpty_nil, if_true, hend, hlines, Nat.sub_self, Nat.add_zero]

/-- What a printing tag holds behind its opening mark. -/
theorem tokensFrom_printed {x : List Char} (hx : isName x = true) :
    tokensFrom total (fuel + 4) (.tag true [] before) line
        (' ' :: (x ++ ' ' :: closeBrace :: closeBrace :: rest)) =
      ⟨.name (String.ofList x), line⟩ :: ⟨.printEnd, line + countLines x⟩ ::
        tokensFrom total fuel .root (line + countLines x) rest := by
  have hopen : tokensFrom total (fuel + 4) (.tag true [] before) line
      (' ' :: (x ++ ' ' :: closeBrace :: closeBrace :: rest)) =
        tokensFrom total (fuel + 3) (.tag true [] ' ') line
          (x ++ ' ' :: closeBrace :: closeBrace :: rest) := by
    obtain ⟨c, cs, rfl, hstart⟩ := exists_cons_of_isName hx
    exact tokensFrom_blank (isBlank_of_isNameStart hstart)
  have hclose : tokensFrom total (fuel + 1) (.tag true [] ' ') (line + countLines x) (closeBrace :: closeBrace :: rest) =
      ⟨.printEnd, line + countLines x⟩ :: tokensFrom total fuel .root (line + countLines x) rest := tokensFrom_close
  rw [hopen, tokensFrom_name hx (by decide), tokensFrom_blank (by decide), hclose]

/-! ### The whole outline -/

/-- The kind of the token of a text, unless it is empty. -/
def dataKinds (cs : List Char) : List TokenKind := if cs.isEmpty then [] else [.data (String.ofList cs)]

theorem map_kind_dataToken (cs : List Char) (line : Nat) :
    (dataToken cs line).map (·.kind) = dataKinds cs := by
  unfold dataToken dataKinds
  split <;> rfl

/-- The kinds of the tokens of an outline. -/
def Outline.kinds : Outline → List TokenKind
  | last cs _ => dataKinds cs
  | output cs x _ _ _ more => dataKinds cs ++ [.printBegin, .name x, .printEnd] ++ more.kinds

/-- Text up to a printing tag, and the tag. -/
theorem tokensFrom_output (total fuel line : Nat) {cs : List Char} {x : String} (hx : isName x.toList = true)
    (hmark : hasMark cs = false) (hlast : cs.getLast? ≠ some openBrace) (rest : List Char) :
    ∃ line', (tokensFrom total (fuel + 5) .root line (cs ++ printTag x ++ rest)).map (·.kind) =
      dataKinds cs ++ [.printBegin, .name x, .printEnd] ++
        (tokensFrom total fuel .root line' rest).map (·.kind) := by
  have hshape : cs ++ printTag x ++ rest =
      cs ++ openBrace :: openBrace :: ' ' :: (x.toList ++ ' ' :: closeBrace :: closeBrace :: rest) := by
    simp [printTag, openBrace, closeBrace]
  refine ⟨line + countLines cs + countLines x.toList, ?_⟩
  have hsign : ∀ r, takeSign (' ' :: r) = (none, ' ' :: r) := fun r => rfl
  have hnote : openBrace ≠ '#' := by decide
  have hblock : openBrace ≠ '%' := by decide
  have hprint : (openBrace != '%') = true := by decide
  rw [hshape, tokensFrom]
  simp only [takeData_append hmark hlast (show isMark openBrace = true by decide), hsign, reduceCtorEq,
    if_false, if_neg hnote, if_neg hblock, hprint, if_true, List.map_append, map_kind_dataToken,
    List.map_cons]
  rw [tokensFrom_printed hx]
  simp

/-- The text at the end. -/
theorem tokensFrom_last {cs : List Char} (hmark : hasMark cs = false) :
    (tokensFrom total (fuel + 1) .root line cs).map (·.kind) = dataKinds cs := by
  rw [tokensFrom]
  simp only [takeData_of_not_hasMark hmark, map_kind_dataToken]

/-- A reader sees the parts of an outline. -/
theorem Outline.kinds_tokensFrom (o : Outline) (total : Nat) {fuel : Nat} (line : Nat)
    (h : o.written.length < fuel) :
    (tokensFrom total fuel .root line o.written).map (·.kind) = o.kinds := by
  induction o generalizing fuel line with
  | last cs plain =>
      obtain ⟨fuel, rfl⟩ : ∃ n, fuel = n + 1 := ⟨fuel - 1, by omega⟩
      exact tokensFrom_last plain
  | output cs x hx plain apart more ih =>
      -- a tag has more characters than the steps that it takes
      have htag : 5 ≤ (printTag x).length := by simp [printTag]
      simp only [written, List.length_append] at h
      obtain ⟨fuel, rfl⟩ : ∃ n, fuel = n + 5 := ⟨fuel - 5, by omega⟩
      obtain ⟨line', hread⟩ :=
        tokensFrom_output total fuel line (isName_of_isVariable hx) plain apart more.written
      rw [written, hread, ih line' (by omega), kinds]

/-! ### Preparing the text -/

theorem not_mem_printTag {x : String} (hx : isName x.toList = true) : '\r' ∉ printTag x := by
  intro hmem
  simp only [printTag, List.mem_append] at hmem
  rcases hmem with (hopen | hname) | hclose
  · exact absurd hopen (by decide)
  · exact absurd (isNameInside_of_isName hx hname) (by decide)
  · exact absurd hclose (by decide)

/-- What the tokens are read from is the prepared outline as it is written. -/
theorem Outline.prepare_written (o : Outline) : prepare o.written = o.prepared.written := by
  induction o with
  | last => rfl
  | output cs x hx plain apart more ih =>
      have hmore : unifyLineEnds (cs ++ (printTag x ++ more.written)) =
          unifyLineEnds cs ++ printTag x ++ unifyLineEnds more.written := by
        rw [unifyLineEnds_append_of_head (by simp [printTag]),
          unifyLineEnds_append_of_not_mem (not_mem_printTag (isName_of_isVariable hx)), List.append_assoc]
      have hend : (unifyLineEnds cs ++ printTag x).getLast? = some closeBrace := by
        rw [printTag, ← List.append_assoc, List.getLast?_append]
        rfl
      rw [prepare, written, List.append_assoc, hmore, dropLastLineEnd_append (by rw [hend]; decide)]
      rw [prepare] at ih
      rw [ih]
      rfl

/-- The tokens of an outline. -/
theorem Outline.kinds_tokens (o : Outline) : (tokens o.source).map (·.kind) = o.prepared.kinds := by
  unfold tokens source
  rw [String.toList_ofList, prepare_written]
  exact o.prepared.kinds_tokensFrom _ 1 (Nat.lt_succ_self _)

end SqlMapper.Template
