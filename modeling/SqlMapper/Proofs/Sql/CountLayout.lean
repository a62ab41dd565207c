import Mathlib
import SqlMapper.Sql.Normalize
import SqlMapper.Proofs.Sql.Keyword
/-!
# SqlMapper.Proofs.Sql.CountLayout

The count statement that is executed does not depend on how the statement is laid out (`count_of_layout`): statements
without literals and comments that are the same on one line have count statements that are the same on one line.

Without literals and comments a text is brought to one line character by character (`squeeze`), with no more than
whether a space is due remembered on the way (`Gap`). That goes well with all that the count statement is made by,
because it only ever looks for words, and words are neither torn nor joined: a search in the squeezed text finds what
the search in the text finds (`splitAtFirst?_squeeze`).
-/

namespace SqlMapper.Sql

open SqlMapper.Text

/-! ### Texts without their superfluous blanks -/

/-- Whether a space is to be written before the next character, unless that is a parenthesis. -/
inductive Gap
  /-- Never: nothing stands before it yet, or an opening parenthesis does. -/
  | shut
  /-- If a blank comes before it. -/
  | possible
  /-- A blank came. -/
  | due
  deriving DecidableEq

namespace Gap

/-- The gap after a character. -/
def step (g : Gap) (c : Char) : Gap :=
  if isBlank c then (if g = .shut then .shut else .due) else if c = '(' then .shut else .possible

/-- What is written of a character. -/
def output (g : Gap) (c : Char) : List Char :=
  if isBlank c then [] else if g = .due ∧ c ≠ '(' ∧ c ≠ ')' then [' ', c] else [c]

/-- The gap after a text. -/
def after (g : Gap) (cs : List Char) : Gap := cs.foldl step g

/-- The space that a gap puts before a word. -/
def space (g : Gap) : List Char := if g = .due then [' '] else []

end Gap

/-- A text on one line, as if all its blanks were mere blanks. -/
def squeeze (g : Gap) : List Char → List Char
  | [] => []
  | c :: cs => g.output c ++ squeeze (g.step c) cs

variable {p : Pattern} {g : Gap} {w w' : Bool} {c : Char} {a b cs rest : List Char} {letters : String}

@[simp] theorem squeeze_nil (g : Gap) : squeeze g [] = [] := rfl

theorem squeeze_append (g : Gap) (a b : List Char) : squeeze g (a ++ b) = squeeze g a ++ squeeze (g.after a) b := by
  induction a generalizing g with
  | nil => rfl
  | cons c a ih => simp [squeeze, ih, Gap.after]

/-- The codes of the blanks. -/
def blankCodes : List Nat :=
  List.range' 9 5 ++ List.range' 28 5 ++ [0x85, 0xa0, 0x1680] ++ List.range' 0x2000 11 ++
    [0x2028, 0x2029, 0x202f, 0x205f, 0x3000]

/-- No blank is part of a word. -/
theorem isWord_of_isBlank (h : isBlank c = true) : isWord c = false := by
  have hcode : c.toNat ∈ blankCodes := by
    have hval : c.val.toNat = c.toNat := rfl
    simp only [isBlank, Bool.or_eq_true, Bool.and_eq_true, decide_eq_true_eq, beq_iff_eq,
      UInt32.le_iff_toNat_le, ← UInt32.toNat_inj, UInt32.toNat_ofNat, hval] at h
    simp only [blankCodes, List.mem_append, List.mem_range'_1, List.mem_cons, List.not_mem_nil, or_false]
    omega
  have hcodes : ∀ n ∈ blankCodes, isWord (Char.ofNat n) = false := by decide +kernel
  have := hcodes c.toNat hcode
  rwa [Char.ofNat_toNat] at this

theorem not_isBlank_of_isWord (h : isWord c = true) : isBlank c = false := by
  by_contra hb
  rw [isWord_of_isBlank (by simpa using hb)] at h
  cases h

theorem squeeze_blank (h : isBlank c = true) (g : Gap) (cs : List Char) :
    squeeze g (c :: cs) = squeeze (g.step c) cs := by
  simp [squeeze, Gap.output, h]

theorem Gap.step_word (h : isWord c = true) (g : Gap) : g.step c = .possible := by
  have hopen : c ≠ '(' := by
    rintro rfl
    exact absurd h (by decide)
  simp [step, not_isBlank_of_isWord h, hopen]

theorem squeeze_word (h : isWord c = true) (g : Gap) (cs : List Char) :
    squeeze g (c :: cs) = g.space ++ c :: squeeze .possible cs := by
  have hopen : c ≠ '(' := by
    rintro rfl
    exact absurd h (by decide)
  have hclose : c ≠ ')' := by
    rintro rfl
    exact absurd h (by decide)
  rw [squeeze, Gap.step_word h]
  cases g <;> simp [Gap.output, Gap.space, not_isBlank_of_isWord h, hopen, hclose]

/-- Where a blank came, no word goes on. -/
theorem head_squeeze_due {x : Char} (h : (squeeze .due cs).head? = some x) : isWord x = false := by
  induction cs with
  | nil => cases h
  | cons c cs ih =>
      cases hb : isBlank c with
      | true =>
          rw [squeeze_blank hb] at h
          exact ih (by simpa [Gap.step, hb] using h)
      | false =>
          by_cases hopen : c = '('
          · subst hopen
            obtain rfl : '(' = x := by simpa [squeeze, Gap.output, hb] using h
            decide
          · by_cases hclose : c = ')'
            · subst hclose
              obtain rfl : ')' = x := by simpa [squeeze, Gap.output, hb] using h
              decide
            · obtain rfl : ' ' = x := by simpa [squeeze, Gap.output, hb, hopen, hclose] using h
              decide

/-- Behind a character that is no opening parenthesis, a text goes on with a word if and only if it does so squeezed. -/
theorem head_squeeze_possible {q : Char → Bool} (hq : ∀ {x}, q x = true → isWord x = true) (cs : List Char) :
    (squeeze .possible cs).head?.any q = cs.head?.any q := by
  cases cs with
  | nil => rfl
  | cons c cs =>
      cases hb : isBlank c with
      | true =>
          have hnot {x : Char} (hx : isWord x = false) : q x = false := by
            by_contra h
            rw [hq (by simpa using h)] at hx
            cases hx
          have hstep : Gap.possible.step c = .due := by simp [Gap.step, hb]
          rw [squeeze_blank hb, hstep, List.head?_cons, Option.any_some, hnot (isWord_of_isBlank hb)]
          cases hhead : (squeeze .due cs).head? with
          | none => rfl
          | some x => exact hnot (head_squeeze_due hhead)
      | false => simp [squeeze, Gap.output, hb]

/-- What is written of a character is written again. -/
theorem squeeze_output (hb : isBlank c = false) (b : List Char) :
    squeeze g (g.output c ++ b) = g.output c ++ squeeze (g.step c) b ∧
      squeeze .possible (Gap.due.output c ++ b) = Gap.due.output c ++ squeeze (g.step c) b := by
  have hspace : isBlank ' ' = true := by decide
  by_cases hword : c = '(' ∨ c = ')'
  · have houtput (g : Gap) : g.output c = [c] := by rcases hword with rfl | rfl <;> cases g <;> decide
    have hstep (g : Gap) : g.step c = Gap.due.step c := by rcases hword with rfl | rfl <;> cases g <;> decide
    simp [squeeze, houtput, hstep g, hstep .possible]
  · rw [not_or] at hword
    cases g <;> simp [squeeze, Gap.output, Gap.step, hb, hspace, hword.1, hword.2]

theorem squeeze_twice (cs : List Char) :
    (∀ g, squeeze g (squeeze g cs) = squeeze g cs) ∧ squeeze .possible (squeeze .due cs) = squeeze .due cs := by
  induction cs with
  | nil => exact ⟨fun _ => rfl, rfl⟩
  | cons c cs ih =>
      cases hb : isBlank c with
      | true =>
          have hdue : squeeze .due (c :: cs) = squeeze .due cs := by simp [squeeze_blank hb, Gap.step, hb]
          refine ⟨fun g => ?_, by rw [hdue, ih.2]⟩
          cases g with
          | shut => simpa [squeeze_blank hb, Gap.step, hb] using ih.1 .shut
          | possible => simpa [squeeze_blank hb, Gap.step, hb] using ih.2
          | due => rw [hdue, ih.1]
      | false =>
          refine ⟨fun g => ?_, ?_⟩
          · rw [squeeze, (squeeze_output hb _).1, ih.1]
          · rw [squeeze, (squeeze_output (g := .due) hb _).2, ih.1]

/-- **Squeezing again changes nothing.** -/
theorem squeeze_squeeze (g : Gap) (cs : List Char) : squeeze g (squeeze g cs) = squeeze g cs := (squeeze_twice cs).1 g

/-! ### Words in squeezed texts -/

theorem endsWord_squeeze (cs : List Char) : endsWord (squeeze .possible cs) = endsWord cs := by
  rw [endsWord, endsWord, head_squeeze_possible id]

theorem dropLetters?_squeeze {ls : List Char} (hls : ∀ l ∈ ls, l.isAlpha = true) (cs : List Char) :
    dropLetters? ls (squeeze .possible cs) = (dropLetters? ls cs).map (squeeze .possible) := by
  induction ls generalizing cs with
  | nil => rfl
  | cons l ls ih =>
      obtain ⟨hl, hls⟩ := List.forall_mem_cons.mp hls
      have hhead := head_squeeze_possible (isWord_of_isLetter hl) cs
      cases cs with
      | nil => rfl
      | cons c cs =>
          by_cases hc : isLetter l c = true
          · rw [squeeze_word (isWord_of_isLetter hl hc)]
            simpa [Gap.space, dropLetters?, hc] using ih hls cs
          · rw [List.head?_cons, Option.any_some, Bool.eq_false_iff.mpr hc] at hhead
            rw [dropLetters?, if_neg hc, Option.map_none]
            cases hsqueezed : squeeze .possible (c :: cs) with
            | nil => rfl
            | cons x xs =>
                rw [hsqueezed, List.head?_cons, Option.any_some] at hhead
                rw [dropLetters?, hhead, if_neg Bool.false_ne_true]

/-- A pattern for words: it begins with a word character, and blanks are all the same to it. -/
structure WordPattern (p : Pattern) : Prop where
  begins : ∀ {c cs}, isWord c = false → p (c :: cs) = none
  squeezed : ∀ cs, p (squeeze .possible cs) = (p cs).map (squeeze .possible)

theorem wordPattern_keyword (hkey : IsKeyword letters) : WordPattern (keyword letters) where
  begins hc := by
    refine keyword_eq_none_of_endsWord hkey ?_
    simp [endsWord, hc]
  squeezed cs := by
    rw [keyword, keyword, dropLetters?_squeeze hkey.2]
    cases dropLetters? letters.toList cs with
    | none => rfl
    | some rest => simp [Option.filter, endsWord_squeeze, apply_ite]

theorem orderBy_eq (cs : List Char) :
    orderBy cs = (dropLetters? "order".toList cs).bind fun rest =>
      if rest.head?.any isBlank then keyword "by" (dropBlanks rest) else none := rfl

/-- Where blanks make no difference any more, they are dropped. -/
theorem squeeze_dropBlanks (hg : g ≠ .possible) (cs : List Char) : squeeze g (dropBlanks cs) = squeeze g cs := by
  induction cs with
  | nil => rfl
  | cons c cs ih =>
      cases hb : isBlank c with
      | true =>
          have hstep : g.step c = g := by cases g <;> simp_all [Gap.step]
          rw [squeeze_blank hb, hstep, ← ih, dropBlanks, List.dropWhile_cons_of_pos hb, dropBlanks]
      | false => rw [dropBlanks, List.dropWhile_cons_of_neg (by simp [hb])]

/-- A word behind a blank: in a squeezed text it is a word behind a space. -/
theorem word_behind_blank (hp : WordPattern p) (hnil : p [] = none) (cs : List Char) :
    (if (squeeze .due cs).head?.any isBlank then p (dropBlanks (squeeze .due cs)) else none) =
      (p (dropBlanks cs)).map (squeeze .possible) := by
  have hspace : isBlank ' ' = true := by decide
  rw [← squeeze_dropBlanks (by decide)]
  cases hcs : dropBlanks cs with
  | nil => simp [hnil]
  | cons d rest =>
      have hd : isBlank d = false := by
        have hhead := List.head?_dropWhile_not isBlank cs
        rwa [show cs.dropWhile isBlank = d :: rest from hcs] at hhead
      by_cases hword : isWord d = true
      · have hagain := hp.squeezed (d :: rest)
        rw [squeeze_word hword] at hagain ⊢
        simpa [Gap.space, dropBlanks, hspace, hd] using hagain
      · rw [Bool.not_eq_true] at hword
        have hfails (rest' : List Char) : p (dropBlanks (d :: rest')) = none := by
          rw [dropBlanks, List.dropWhile_cons_of_neg (by simp [hd]), hp.begins hword]
        rw [hp.begins hword, Option.map_none, squeeze]
        by_cases hparenthesis : d = '(' ∨ d = ')'
        · rcases hparenthesis with rfl | rfl <;> simp [Gap.output, hd]
        · -- a space, and no word behind it
          rw [not_or] at hparenthesis
          have hskip (rest' : List Char) : dropBlanks (' ' :: d :: rest') = dropBlanks (d :: rest') := by
            simp [dropBlanks, hspace]
          simp [Gap.output, hd, hparenthesis, hspace, hskip, hfails]

theorem wordPattern_orderBy : WordPattern orderBy where
  begins {c cs} hc := by
    have hnone : dropLetters? "order".toList (c :: cs) = none := by
      refine if_neg fun hletter => ?_
      rw [isWord_of_isLetter (by decide) hletter] at hc
      cases hc
    rw [orderBy_eq, hnone, Option.bind_none]
  squeezed cs := by
    rw [orderBy_eq, orderBy_eq, dropLetters?_squeeze (by simp)]
    cases dropLetters? "order".toList cs with
    | none => rfl
    | some rest =>
        rw [Option.map_some, Option.bind_some, Option.bind_some]
        cases rest with
        | nil => rfl
        | cons d rest =>
            cases hb : isBlank d with
            | true =>
                have hskip : dropBlanks (d :: rest) = dropBlanks rest := by simp [dropBlanks, hb]
                rw [squeeze_blank hb, hskip, List.head?_cons, Option.any_some, hb, if_pos rfl]
                simpa [Gap.step, hb] using word_behind_blank (wordPattern_keyword isKeyword_by) rfl rest
            | false => simp [squeeze, Gap.output, hb]

/-! ### Searches in squeezed texts -/

/-- Do two flags tell alike whether a word goes on, of a text behind a gap and of the squeezed one? Behind a blank the
squeezed text may still stand at the word before it. -/
def Gap.Allows : Gap → Bool → Bool → Prop
  | .shut, inWord, inSqueezed => inWord = false ∧ inSqueezed = false
  | .possible, inWord, inSqueezed => inWord = inSqueezed
  | .due, inWord, _ => inWord = false

theorem Gap.allows_false (g : Gap) : g.Allows false false := by
  cases g with
  | shut => exact ⟨rfl, rfl⟩
  | possible | due => rfl

theorem Gap.allows_possible (w : Bool) : Gap.possible.Allows w w := rfl

theorem Gap.Allows.blank (h : g.Allows w w') (hb : isBlank c = true) : (g.step c).Allows false w' := by
  cases g with
  | shut => simpa [Gap.step, hb, Gap.Allows] using h.2
  | possible | due => simp [Gap.step, hb, Gap.Allows]

theorem splitAtFirst?_of_not_isWord (hp : WordPattern p) (hc : isWord c = false) (w : Bool) (cs : List Char) :
    splitAtFirst? p w (c :: cs) = (splitAtFirst? p false cs).map fun found => (c :: found.1, found.2) := by
  rw [splitAtFirst?, hp.begins hc, hc]
  split <;> rfl

/-- A space before a word is passed. -/
theorem splitAtFirst?_squeeze_word (hp : WordPattern p) (h : g.Allows w w') (hc : isWord c = true) (cs : List Char) :
    splitAtFirst? p w' (squeeze g (c :: cs)) =
      (splitAtFirst? p w (c :: squeeze .possible cs)).map fun found => (g.space ++ found.1, found.2) := by
  rw [squeeze_word hc]
  cases g with
  | shut => simp [Gap.space, h.1, h.2]
  | possible => simp [Gap.space, show w = w' from h]
  | due =>
      rw [show w = false from h]
      exact splitAtFirst?_of_not_isWord hp (by decide) w' _

/-- So is what is written of a character that is in no word. -/
theorem splitAtFirst?_output (hp : WordPattern p) (hc : isWord c = false) (hb : isBlank c = false) (g : Gap)
    (w : Bool) (cs : List Char) :
    splitAtFirst? p w (g.output c ++ cs) =
      (splitAtFirst? p false cs).map fun found => (g.output c ++ found.1, found.2) := by
  have hspace : isWord ' ' = false := by decide
  rw [Gap.output, if_neg (by simp [hb])]
  split
  · simp [splitAtFirst?_of_not_isWord hp hspace, splitAtFirst?_of_not_isWord hp hc, Function.comp_def]
  · simp [splitAtFirst?_of_not_isWord hp hc]

/-- What was found in a text, as it is found in the squeezed one. -/
def squeezeSplit (g : Gap) (found : List Char × List Char) : List Char × List Char :=
  (squeeze g found.1 ++ (g.after found.1).space, squeeze .possible found.2)

theorem squeezeSplit_cons (g : Gap) (c : Char) (found : List Char × List Char) :
    squeezeSplit g (c :: found.1, found.2) =
      (g.output c ++ (squeezeSplit (g.step c) found).1, (squeezeSplit (g.step c) found).2) := by
  simp [squeezeSplit, squeeze, Gap.after]

theorem squeezeSplit_word (hc : isWord c = true) (g : Gap) (found : List Char × List Char) :
    squeezeSplit g (c :: found.1, found.2) =
      (g.space ++ c :: (squeezeSplit .possible found).1, (squeezeSplit .possible found).2) := by
  simp [squeezeSplit, squeeze_word hc, Gap.after, Gap.step_word hc]

/-- **A search in a squeezed text finds what the search in the text finds.** -/
theorem splitAtFirst?_squeeze (hp : WordPattern p) (h : g.Allows w w') (cs : List Char) :
    splitAtFirst? p w' (squeeze g cs) = (splitAtFirst? p w cs).map (squeezeSplit g) := by
  induction cs generalizing g w w' with
  | nil => rfl
  | cons c cs ih =>
      by_cases hword : isWord c = true
      · have hmatch : p (c :: squeeze .possible cs) = (p (c :: cs)).map (squeeze .possible) := by
          rw [← hp.squeezed, squeeze_word hword]
          rfl
        rw [splitAtFirst?_squeeze_word hp h hword, splitAtFirst?, splitAtFirst?, ih (Gap.allows_possible (isWord c)),
          hmatch]
        have hfurther : (((splitAtFirst? p (isWord c) cs).map (squeezeSplit .possible)).map
            fun found => (c :: found.1, found.2)).map (fun found => (g.space ++ found.1, found.2)) =
              ((splitAtFirst? p (isWord c) cs).map fun found => (c :: found.1, found.2)).map (squeezeSplit g) := by
          simp only [Option.map_map, Function.comp_def, squeezeSplit_word hword]
        cases w with
        | true => exact hfurther
        | false =>
            cases p (c :: cs) with
            | none => exact hfurther
            | some rest => simp [squeezeSplit, Gap.after]
      · rw [Bool.not_eq_true] at hword
        rw [splitAtFirst?_of_not_isWord hp hword w, Option.map_map, Function.comp_def]
        simp only [squeezeSplit_cons]
        cases hb : isBlank c with
        | true =>
            rw [squeeze_blank hb, ih (h.blank hb)]
            simp [Gap.output, hb]
        | false =>
            rw [squeeze, splitAtFirst?_output hp hword hb, ih (g.step c).allows_false, Option.map_map,
              Function.comp_def]

theorem isWord_of_isBindStart (h : isBindStart c = true) : isWord c = true := by
  rcases Bool.or_eq_true_iff.mp h with h | h
  · exact isWord_of_isAlphanum (by simp [Char.isAlphanum, h])
  · rw [eq_of_beq h]
    decide

theorem hasPlaceholder_cons_of_ne (hmark : c ≠ '?') (hcolon : c ≠ ':') (w : Bool) (cs : List Char) :
    hasPlaceholder w (c :: cs) = hasPlaceholder (isWord c) cs := by
  simp [hasPlaceholder, beq_false_of_ne hmark, beq_false_of_ne hcolon]

/-- A space before a character is passed. -/
theorem hasPlaceholder_squeeze_cons (h : g.Allows w w') (hb : isBlank c = false) (hopen : c ≠ '(') (hclose : c ≠ ')')
    (cs : List Char) : hasPlaceholder w' (squeeze g (c :: cs)) = hasPlaceholder w (c :: squeeze .possible cs) := by
  have hstep : g.step c = .possible := by simp [Gap.step, hb, hopen]
  rw [squeeze, hstep]
  cases g with
  | shut => simp [Gap.output, hb, h.1, h.2]
  | possible => simp [Gap.output, hb, show w = w' from h]
  | due =>
      rw [show w = false from h, Gap.output, if_neg (by simp [hb]), if_pos ⟨rfl, hopen, hclose⟩]
      exact hasPlaceholder_cons_of_ne (by decide) (by decide) _ _

/-- A squeezed text holds a placeholder if and only if the text does. -/
theorem hasPlaceholder_squeeze (h : g.Allows w w') (cs : List Char) :
    hasPlaceholder w' (squeeze g cs) = hasPlaceholder w cs := by
  induction cs generalizing g w w' with
  | nil => rfl
  | cons c cs ih =>
      cases hb : isBlank c with
      | true =>
          have hmark : c ≠ '?' ∧ c ≠ ':' := by
            constructor <;> rintro rfl <;> exact absurd hb (by decide)
          rw [squeeze_blank hb, hasPlaceholder_cons_of_ne hmark.1 hmark.2, isWord_of_isBlank hb]
          exact ih (h.blank hb)
      | false =>
          by_cases hparenthesis : c = '(' ∨ c = ')'
          · have houtput : g.output c = [c] := by rcases hparenthesis with rfl | rfl <;> cases g <;> decide
            have hmark : c ≠ '?' ∧ c ≠ ':' ∧ isWord c = false := by
              rcases hparenthesis with rfl | rfl <;> decide
            rw [squeeze, houtput, List.singleton_append, hasPlaceholder_cons_of_ne hmark.1 hmark.2.1,
              hasPlaceholder_cons_of_ne hmark.1 hmark.2.1, hmark.2.2]
            exact ih (g.step c).allows_false
          · rw [not_or] at hparenthesis
            have hbehind := ih (Gap.allows_possible (c == ':' || isWord c))
            rw [hasPlaceholder_squeeze_cons h hb hparenthesis.1 hparenthesis.2, hasPlaceholder, hasPlaceholder,
              head_squeeze_possible isWord_of_isBindStart, hbehind]

/-! ### The count statement of a squeezed text -/

theorem squeeze_countSelect (g : Gap) (cs : List Char) :
    squeeze g (countSelect ++ cs) = g.space ++ countSelect ++ squeeze .possible cs := by
  have hwords : squeeze .possible countSelect.tail = countSelect.tail ∧
      Gap.possible.after countSelect.tail = .possible := by decide
  have hcountSelect : countSelect ++ cs = 's' :: (countSelect.tail ++ cs) := rfl
  rw [hcountSelect, squeeze_word (by decide), squeeze_append, hwords.1, hwords.2]
  simp
  rfl

/-- **Squeezing a text and replacing its select list go together.** -/
theorem replaceSelectList_squeeze (cs : List Char) :
    replaceSelectList (squeeze .shut cs) = squeeze .shut (replaceSelectList cs) := by
  have hselect := splitAtFirst?_squeeze (wordPattern_keyword isKeyword_select) (Gap.allows_false .shut) cs
  rw [replaceSelectList, replaceSelectList, hselect]
  cases splitAtFirst? (keyword "select") false cs with
  | none => rfl
  | some found =>
      obtain ⟨before, list⟩ := found
      have hfrom := splitAtFirst?_squeeze (wordPattern_keyword isKeyword_from) (Gap.allows_possible false) list
      rw [Option.map_some, squeezeSplit]
      dsimp only
      rw [hfrom]
      cases splitAtFirst? (keyword "from") false list with
      | none => rfl
      | some found =>
          obtain ⟨skipped, tail⟩ := found
          rw [Option.map_some, squeezeSplit]
          dsimp only
          rw [List.append_assoc before, squeeze_append, squeeze_countSelect]
          simp only [List.append_assoc]

/-- A search cuts a text before a word. -/
theorem splitAtFirst?_parts {before : List Char} (hp : WordPattern p) (hnil : p [] = none)
    (h : splitAtFirst? p w cs = some (before, rest)) :
    ∃ c behind, isWord c = true ∧ cs = before ++ c :: behind := by
  rw [splitAtFirst?_eq] at h
  obtain ⟨n, hn, hsplit⟩ := Option.map_eq_some_iff.mp h
  cases hsplit
  obtain ⟨-, hsome⟩ := Bool.and_eq_true_iff.mp (firstAt?_eq_some_iff.mp hn).1
  cases hdrop : cs.drop n with
  | nil =>
      rw [hdrop, hnil] at hsome
      cases hsome
  | cons c behind =>
      refine ⟨c, behind, ?_, by rw [← hdrop, List.take_append_drop]⟩
      by_contra hword
      rw [hdrop, hp.begins (by simpa using hword)] at hsome
      cases hsome

/-- **The ordering of a squeezed text is dropped where that of the text is.** -/
theorem dropOrdering_squeeze (cs : List Char) :
    squeeze .shut (dropOrdering (squeeze .shut cs)) = squeeze .shut (dropOrdering cs) := by
  have hordering := splitAtFirst?_squeeze wordPattern_orderBy (Gap.allows_false .shut) cs
  rw [dropOrdering, dropOrdering, hordering]
  cases hfound : splitAtFirst? orderBy false cs with
  | none => exact squeeze_squeeze .shut cs
  | some found =>
      obtain ⟨before, rest⟩ := found
      obtain ⟨c, behind, hword, rfl⟩ := splitAtFirst?_parts wordPattern_orderBy rfl hfound
      have hsqueezed : squeeze .shut (before ++ c :: behind) =
          (squeezeSplit .shut (before, rest)).1 ++ squeeze .possible (c :: behind) := by
        simp [squeezeSplit, squeeze_append, squeeze_word hword, Gap.space]
      have hspace : squeeze .shut (squeezeSplit .shut (before, rest)).1 = squeeze .shut before := by
        have hblank (g g' : Gap) : squeeze g g'.space = [] := by cases g <;> cases g' <;> decide
        rw [squeezeSplit, squeeze_append, squeeze_squeeze, hblank, List.append_nil]
      have hsame := hasPlaceholder_squeeze (Gap.allows_possible false) (c :: behind)
      rw [Option.map_some]
      dsimp only
      rw [hsqueezed, List.drop_left, List.drop_left, hsame, ← hsqueezed]
      split
      · exact squeeze_squeeze .shut _
      · exact hspace

/-- **Squeezing a text first makes no difference to its squeezed count statement.** -/
theorem deriveCountChars_squeeze (cs : List Char) :
    squeeze .shut (deriveCountChars (squeeze .shut cs)) = squeeze .shut (deriveCountChars cs) := by
  rw [deriveCountChars, deriveCountChars, replaceSelectList_squeeze, dropOrdering_squeeze]

/-! ### Texts without literals and comments -/

/-- Is a text free of quotes and of what begins a comment? -/
structure IsPlain (cs : List Char) : Prop where
  not_quote : ∀ c ∈ cs, isQuote c = false
  not_lineComment : ¬ ['-', '-'] <:+: cs
  not_blockComment : ¬ ['/', '*'] <:+: cs

theorem not_infix_iff_isChain {x y : Char} : ¬ [x, y] <:+: cs ↔ cs.IsChain fun a b => ¬ (a = x ∧ b = y) := by
  induction cs with
  | nil => simp
  | cons a cs ih =>
      rw [List.infix_cons_iff, not_or, ih]
      cases cs with
      | nil => simp
      | cons b cs =>
          rw [List.isChain_cons_cons]
          refine and_congr_left fun _ => not_congr ?_
          simp [List.cons_prefix_cons, eq_comm]

namespace IsPlain

theorem of_infix (h : IsPlain cs) (ha : a <:+: cs) : IsPlain a where
  not_quote c hc := h.not_quote c (ha.subset hc)
  not_lineComment hm := h.not_lineComment (hm.trans ha)
  not_blockComment hm := h.not_blockComment (hm.trans ha)

/-- Texts that are put together are plain if no comment begins where they meet. -/
theorem append (ha : IsPlain a) (hb : IsPlain b)
    (hmeet : ∀ x ∈ a.getLast?, ∀ y ∈ b.head?, ¬ (x = '-' ∧ y = '-') ∧ ¬ (x = '/' ∧ y = '*')) : IsPlain (a ++ b) where
  not_quote c hc := (List.mem_append.mp hc).elim (ha.not_quote c) (hb.not_quote c)
  not_lineComment := by
    rw [not_infix_iff_isChain, List.isChain_append]
    exact ⟨not_infix_iff_isChain.mp ha.not_lineComment, not_infix_iff_isChain.mp hb.not_lineComment,
      fun x hx y hy => (hmeet x hx y hy).1⟩
  not_blockComment := by
    rw [not_infix_iff_isChain, List.isChain_append]
    exact ⟨not_infix_iff_isChain.mp ha.not_blockComment, not_infix_iff_isChain.mp hb.not_blockComment,
      fun x hx y hy => (hmeet x hx y hy).2⟩

theorem countSelect : IsPlain countSelect where
  not_quote := by
    have hall : (Sql.countSelect.all fun c => !isQuote c) = true := by decide +kernel
    simpa using hall
  not_lineComment := by decide +kernel
  not_blockComment := by decide +kernel

/-- The count statement of a plain text is plain: no comment comes into being where it is put together. -/
theorem deriveCountChars (h : IsPlain cs) : IsPlain (deriveCountChars cs) := by
  have hreplaced : IsPlain (replaceSelectList cs) := by
    rw [replaceSelectList_eq]
    split
    · exact h
    next i j _ =>
      have hbefore : IsPlain (cs.take i) := h.of_infix (List.take_prefix i cs).isInfix
      have hbehind : IsPlain (cs.drop (j + 4)) := h.of_infix (List.drop_suffix (j + 4) cs).isInfix
      refine (hbefore.append countSelect ?_).append hbehind ?_
      · rintro x - y hy
        obtain rfl : 's' = y := Option.some.inj hy
        simp
      · rintro x hx y -
        rw [List.getLast?_append_of_ne_nil _ (by decide)] at hx
        obtain rfl : 'm' = x := Option.some.inj hx
        simp
  rw [Sql.deriveCountChars, dropOrdering_eq]
  split
  · exact hreplaced
  · split
    · exact hreplaced
    · exact hreplaced.of_infix (List.take_prefix _ _).isInfix

/-- What stands in a plain text is read as blanks and single characters. -/
theorem nextToken_eq (h : IsPlain (c :: cs)) :
    nextToken c cs =
      if isBlank c then (.blank (c :: cs.takeWhile isBlank), cs.dropWhile isBlank) else (.char c, cs) := by
  have hquote := h.not_quote c List.mem_cons_self
  have hcomment {x y : Char} (hmark : ¬ [x, y] <:+: c :: cs) : ¬ (c = x ∧ cs.head? = some y) := by
    rintro ⟨rfl, hy⟩
    obtain ⟨rest, rfl⟩ := List.head?_eq_some_iff.mp hy
    exact hmark ⟨[], rest, rfl⟩
  rw [nextToken, hquote, if_neg Bool.false_ne_true, if_neg (hcomment h.not_lineComment),
    if_neg (hcomment h.not_blockComment)]

end IsPlain

/-- The gap behind a token, and behind what separates it from the next one. -/
def gapBehind (previous : Option Token) (separated : Bool) : Gap :=
  if previous.any (!·.isOpen) then (if separated then .due else .possible) else .shut

theorem gapBehind_char (c : Char) : gapBehind (some (.char c)) false = if c = '(' then .shut else .possible := by
  by_cases hc : c = '(' <;> simp [gapBehind, Token.isOpen, hc]

theorem output_gapBehind (hb : isBlank c = false) (previous : Option Token) (separated : Bool) :
    (gapBehind previous separated).output c =
      if (separated && previous.any (!·.isOpen) && !(Token.char c).isParenthesis) = true then [' ', c] else [c] := by
  have hparenthesis : (Token.char c).isParenthesis = decide (c = '(' ∨ c = ')') := by
    rw [Token.isParenthesis, Bool.decide_or, beq_eq_decide, beq_eq_decide]
    simp
  rw [Gap.output, hb, if_neg Bool.false_ne_true, hparenthesis]
  cases hp : previous.any (!·.isOpen) <;> cases separated <;> simp [gapBehind, hp]

/-- **A plain text is laid out character by character.** -/
theorem IsPlain.layOut_eq (h : IsPlain cs) (previous : Option Token) (separated : Bool) :
    layOut previous separated (lex cs) = squeeze (gapBehind previous separated) cs := by
  fun_induction lex cs generalizing previous separated with
  | case1 => rfl
  | case2 c cs ih =>
      rw [h.nextToken_eq] at ih ⊢
      cases hb : isBlank c with
      | true =>
          have hrest : IsPlain (cs.dropWhile isBlank) :=
            h.of_infix ((List.dropWhile_suffix isBlank).trans (List.suffix_cons c cs)).isInfix
          have hstep : (gapBehind previous separated).step c = gapBehind previous true := by
            cases hp : previous.any (!·.isOpen) <;> cases separated <;> simp [gapBehind, Gap.step, hb, hp]
          have hpassed : gapBehind previous true ≠ .possible := by
            cases hp : previous.any (!·.isOpen) <;> simp [gapBehind, hp]
          simp only [hb, if_true] at ih ⊢
          rw [layOut, if_pos (by rfl), ih hrest, squeeze_blank hb, hstep]
          exact squeeze_dropBlanks hpassed cs
      | false =>
          simp only [hb, Bool.false_eq_true, if_false] at ih ⊢
          have hrest : IsPlain cs := h.of_infix (List.suffix_cons c cs).isInfix
          have hstep : (gapBehind previous separated).step c = gapBehind (some (.char c)) false := by
            simp [Gap.step, hb, gapBehind_char]
          rw [layOut, if_neg (by simp [Token.isSeparator]), ih hrest, squeeze, output_gapBehind hb, hstep]
          rfl

/-- **The count statement that is executed does not depend on the layout of the statement**, as long as there are no
literals and no comments in it. -/
theorem count_of_layout {sql sql' : String} (h : IsPlain sql.toList) (h' : IsPlain sql'.toList)
    (hsame : normalize sql = normalize sql') : normalize (deriveCount sql) = normalize (deriveCount sql') := by
  have hchars {cs : List Char} (h : IsPlain cs) : normalizeChars cs = squeeze .shut cs := h.layOut_eq none false
  have hcount {sql : String} (h : IsPlain sql.toList) :
      (normalize (deriveCount sql)).toList = squeeze .shut (deriveCountChars (normalize sql).toList) := by
    rw [normalize, normalize, deriveCount, String.toList_ofList, String.toList_ofList, String.toList_ofList,
      hchars h.deriveCountChars, hchars h, deriveCountChars_squeeze]
  rw [← String.toList_inj, hcount h, hcount h', hsame]

/-- The same statement on three lines and on one. -/
theorem count_of_layout_on_lines :
    IsPlain "select a\nfrom t where ( b = :b )\n order  by a".toList ∧
      IsPlain "select a from t where(b = :b) order by a".toList ∧
      normalize "select a\nfrom t where ( b = :b )\n order  by a" = normalize "select a from t where(b = :b) order by a" ∧
      normalize (deriveCount "select a\nfrom t where ( b = :b )\n order  by a") =
        normalize (deriveCount "select a from t where(b = :b) order by a") := by
  have hlines : IsPlain "select a\nfrom t where ( b = :b )\n order  by a".toList :=
    ⟨by simp [isQuote], by decide +kernel, by decide +kernel⟩
  have hline : IsPlain "select a from t where(b = :b) order by a".toList :=
    ⟨by simp [isQuote], by decide +kernel, by decide +kernel⟩
  have hsame : normalize "select a\nfrom t where ( b = :b )\n order  by a" =
      normalize "select a from t where(b = :b) order by a" := by
    cbv
  exact ⟨hlines, hline, hsame, count_of_layout hlines hline hsame⟩

end SqlMapper.Sql
