import Mathlib
import SqlMapper.Sql.Normalize
import SqlMapper.Proofs.Sql.Reading
/-!
# SqlMapper.Proofs.Sql.OneLine

The one-line form of a statement says what the statement says (`normalize_preserves`): read again it has the
same tokens in the same order, blanks and line comments apart, and where neither of two neighbours is a
parenthesis, they are apart in it exactly if they were apart before.

Taking out what stands between two tokens may bring characters together that mean something else as a pair:
two signs begin a comment, two quotes are none. That this never happens is read off the tokens of the one-line
form (`lexWith_layOut`): behind a token stands what stood there before, or a space, or a parenthesis, or
nothing, and none of these extends it.
-/

namespace SqlMapper.Sql

open SqlMapper.Text

/-- The tokens that do more than separate others. -/
def significant (ts : List Token) : List Token := ts.filter (!·.isSeparator)

theorem significant_cons (t : Token) (ts : List Token) :
    significant (t :: ts) = if t.isSeparator then significant ts else t :: significant ts := by
  cases h : t.isSeparator <;> simp [significant, h]

@[simp] theorem Token.isSeparator_space : (Token.blank [' ']).isSeparator = true := rfl

/-- For each significant token, does a separator stand right before it? `separated` tells whether one stands
before all of them. -/
def gaps (separated : Bool) : List Token → List Bool
  | [] => []
  | t :: ts => if t.isSeparator then gaps true ts else separated :: gaps false ts

/-- The tokens of the one-line form. -/
def laidOut (previous : Option Token) (separated : Bool) : List Token → List Token
  | [] => []
  | t :: ts =>
    if t.isSeparator then laidOut previous true ts
    else
      let space := separated && previous.any (!·.isOpen) && !t.isParenthesis
      (if space then [.blank [' '], t] else [t]) ++ laidOut (some t) false ts

/-! ### What stands behind a token in the one-line form -/

variable {c : Char} {cs r : List Char} {t : Token}

theorem Reads.not_blank (h : Reads .library c cs t r) (ht : t.isSeparator = false) : isBlank c = false := by
  cases h with
  | blank | lineComment => cases ht
  | quoted cs hq => exact not_isBlank_of_isQuote hq
  | blockComment => decide
  | char hb => exact hb

/-- A space or a parenthesis extends no token but separators. -/
theorem Reads.ends_of_neutral (h : Reads .library c cs t r) (ht : t.isSeparator = false) {x : Char}
    (hx : x = ' ' ∨ x = '(' ∨ x = ')') : t.extendedBy x = false := by
  cases h with
  | blank | lineComment => cases ht
  | quoted cs hq =>
      have hne : c ≠ x := by
        rintro rfl
        rcases hx with rfl | rfl | rfl <;> exact absurd hq (by decide)
      simp [Token.extendedBy, hne]
  | blockComment => rfl
  | char => rcases hx with rfl | rfl | rfl <;> simp [Token.extendedBy]

theorem Token.eq_of_isOpen (h : t.isOpen = true) : t = .char '(' := by
  simpa [Token.isOpen] using h

theorem Token.text_of_isParenthesis (h : t.isParenthesis = true) : t.text = ['('] ∨ t.text = [')'] := by
  rcases (by simpa [Token.isParenthesis] using h : t = .char '(' ∨ t = .char ')') with rfl | rfl
  · exact Or.inl rfl
  · exact Or.inr rfl

/-- Behind an opening parenthesis stands anything; where something separated tokens, a space or a
parenthesis. -/
theorem head_layOut {previous : Token} {ts : List Token} {x : Char}
    (h : (layOut (some previous) true ts).head? = some x) :
    previous.isOpen = true ∨ x = ' ' ∨ x = '(' ∨ x = ')' := by
  induction ts with
  | nil => cases h
  | cons t ts ih =>
      unfold layOut at h
      cases ho : previous.isOpen with
      | true => exact Or.inl rfl
      | false =>
          cases hs : t.isSeparator with
          | true =>
              rw [if_pos hs] at h
              simpa [ho] using ih h
          | false =>
              cases hp : t.isParenthesis with
              | true =>
                  rcases Token.text_of_isParenthesis hp with htext | htext
                  · simp [hs, hp, htext] at h
                    simp [← h]
                  · simp [hs, hp, htext] at h
                    simp [← h]
              | false =>
                  simp [hs, hp, ho] at h
                  simp [← h]

/-- What stands behind a token in the one-line form does not extend it. -/
theorem Reads.ends_layOut (h : Reads .library c cs t r) (ht : t.isSeparator = false) (ends : t.Ends r) :
    t.Ends (layOut (some t) false (lexWith .library r)) := by
  intro x hx
  have separated : ∀ ts, (layOut (some t) true ts).head? = some x → t.extendedBy x = false := by
    intro ts hts
    rcases head_layOut hts with ho | hneutral
    · rw [Token.eq_of_isOpen ho]
      simp [Token.extendedBy]
    · exact h.ends_of_neutral ht hneutral
  cases r with
  | nil =>
      rw [lexWith_nil] at hx
      cases hx
  | cons d ds =>
      rw [lexWith_cons] at hx
      obtain ⟨tail, htail⟩ := head_nextWith .library d ds
      generalize (nextWith .library d ds).1 = u at hx htail
      cases hu : u.isSeparator with
      | true =>
          rw [layOut, if_pos hu] at hx
          exact separated _ hx
      | false =>
          -- nothing was in between, and nothing is
          refine ends x ?_
          simpa [layOut, hu, htail] using hx

/-- The one-line form is read as the tokens that were laid out. -/
theorem lexWith_layOut (previous : Option Token) (separated : Bool) (cs : List Char) :
    lexWith .library (layOut previous separated (lexWith .library cs)) =
      laidOut previous separated (lexWith .library cs) := by
  fun_induction lexWith .library cs generalizing previous separated with
  | case1 => simp [layOut, laidOut]
  | case2 c cs ih =>
      have hread := reads_nextWith .library c cs
      generalize (nextWith .library c cs).1 = t at *
      generalize (nextWith .library c cs).2 = rest at *
      cases ht : t.isSeparator with
      | true =>
          rw [layOut, if_pos ht, laidOut, if_pos ht]
          exact ih previous true
      | false =>
          have again : Reads .library c (t.text.tail ++ layOut (some t) false (lexWith .library rest)) t
              (layOut (some t) false (lexWith .library rest)) := by
            by_cases hrest : rest = []
            · -- a token that is not closed can only be the last one
              rw [hrest, lexWith_nil]
              have htail := hread.tail_append
              rw [hrest] at htail hread
              rw [← htail] at hread
              exact hread
            · obtain ⟨closed, ends⟩ := hread.closed_of_rest hrest
              exact hread.text_append_of_ends closed (hread.ends_layOut ht ends)
          have own : lexWith .library (t.text ++ layOut (some t) false (lexWith .library rest)) =
              t :: laidOut (some t) false (lexWith .library rest) := by
            rw [hread.text_eq, List.cons_append, again.lexWith_eq, ih]
          unfold layOut laidOut
          rw [if_neg (by simp [ht]), if_neg (by simp [ht])]
          dsimp only
          split
          · -- the space before it
            have space : Reads .library ' ' (t.text ++ layOut (some t) false (lexWith .library rest)) _ _ :=
              .blank _ (by decide)
            rw [hread.text_eq, List.cons_append, List.takeWhile_cons_of_neg (by simp [hread.not_blank ht]),
              List.dropWhile_cons_of_neg (by simp [hread.not_blank ht]), ← List.cons_append,
              ← hread.text_eq] at space
            rw [List.cons_append, space.lexWith_eq, own]
            rfl
          · exact own

/-! ### What the tokens of the one-line form are -/

theorem significant_laidOut (previous : Option Token) (separated : Bool) (ts : List Token) :
    significant (laidOut previous separated ts) = significant ts := by
  induction ts generalizing previous separated with
  | nil => rfl
  | cons t ts ih =>
      have hrest := ih (some t) false
      unfold significant at hrest ih ⊢
      unfold laidOut
      cases ht : t.isSeparator with
      | true => simp [ht, ih]
      | false =>
          rw [if_neg Bool.false_ne_true]
          dsimp only
          split <;> simp [ht, hrest]

/-- Only single spaces are left of what separated tokens. -/
theorem eq_space_of_mem_laidOut {previous : Option Token} {separated : Bool} {ts : List Token}
    (h : t ∈ laidOut previous separated ts) (ht : t.isSeparator = true) : t = .blank [' '] := by
  induction ts generalizing previous separated with
  | nil => cases h
  | cons u ts ih =>
      unfold laidOut at h
      cases hu : u.isSeparator with
      | true =>
          rw [if_pos hu] at h
          exact ih h
      | false =>
          rw [if_neg (by simp [hu])] at h
          rcases List.mem_append.mp h with h | h
          · have hne : t ≠ u := by
              rintro rfl
              rw [hu] at ht
              cases ht
            split at h
            · simpa [hne] using h
            · exact absurd (by simpa using h) hne
          · exact ih h

/-- Behind a token, what was apart is apart, unless a parenthesis is concerned. -/
theorem gaps_laidOut {previous : Token} {separated : Bool} {ts : List Token} {k : Nat} {a b : Token}
    (ha : (previous :: significant ts)[k]? = some a) (hb : (significant ts)[k]? = some b)
    (hap : a.isParenthesis = false) (hbp : b.isParenthesis = false) :
    (gaps false (laidOut (some previous) separated ts))[k]? = (gaps separated ts)[k]? := by
  induction ts generalizing previous separated k with
  | nil => simp [significant] at hb
  | cons t ts ih =>
      cases ht : t.isSeparator with
      | true =>
          rw [significant_cons, if_pos ht] at ha hb
          rw [laidOut, if_pos ht, gaps, if_pos ht]
          exact ih ha hb
      | false =>
          rw [significant_cons, if_neg (by simp [ht])] at ha hb
          cases k with
          | zero =>
              simp only [List.getElem?_cons_zero, Option.some.injEq] at ha hb
              subst ha hb
              have notOpen : previous.isOpen = false := by
                simp only [Token.isParenthesis, Bool.or_eq_false_iff] at hap
                exact hap.1
              cases separated <;> simp [laidOut, gaps, ht, notOpen, hbp]
          | succ k =>
              rw [List.getElem?_cons_succ] at ha hb
              have hrest : (gaps false (laidOut (some t) false ts))[k]? = (gaps false ts)[k]? := ih ha hb
              have shifted : (gaps false (laidOut (some previous) separated (t :: ts)))[k + 1]? =
                  (gaps false (laidOut (some t) false ts))[k]? := by
                rw [laidOut, if_neg (by simp [ht])]
                dsimp only
                split <;> simp [gaps, ht]
              rw [shifted, hrest, gaps, if_neg (by simp [ht]), List.getElem?_cons_succ]

/-- The same before the first token is written. -/
theorem gaps_laidOut_none {separated : Bool} {ts : List Token} {k : Nat} {a b : Token}
    (ha : (significant ts)[k]? = some a) (hb : (significant ts)[k + 1]? = some b)
    (hap : a.isParenthesis = false) (hbp : b.isParenthesis = false) :
    (gaps false (laidOut none separated ts))[k + 1]? = (gaps separated ts)[k + 1]? := by
  induction ts generalizing separated with
  | nil => simp [significant] at hb
  | cons t ts ih =>
      cases ht : t.isSeparator with
      | true =>
          rw [significant_cons, if_pos ht] at ha hb
          rw [laidOut, if_pos ht, gaps, if_pos ht]
          exact ih ha hb
      | false =>
          rw [significant_cons, if_neg (by simp [ht])] at ha hb
          rw [List.getElem?_cons_succ] at hb
          have hrest : (gaps false (laidOut (some t) false ts))[k]? = (gaps false ts)[k]? :=
            gaps_laidOut ha hb hap hbp
          simpa [laidOut, gaps, ht] using hrest

/-- **The one-line form of a statement says what the statement says.** Read again, it has the same significant
tokens in the same order, literals and block comments with the same text. Two neighbours of which neither is a
parenthesis are apart in it if and only if they are apart in the statement; and what separates tokens in it
is a single space, never a line comment. -/
theorem normalize_preserves (sql : String) :
    let before := lex sql.toList
    let after := lex (normalize sql).toList
    significant after = significant before ∧
      (∀ k a b, (significant before)[k]? = some a → (significant before)[k + 1]? = some b →
        a.isParenthesis = false → b.isParenthesis = false →
          (gaps false after)[k + 1]? = (gaps false before)[k + 1]?) ∧
      ∀ t ∈ after, t.isSeparator = true → t = .blank [' '] := by
  intro before after
  have hafter : after = laidOut none false before := by
    have hlex := lexWith_layOut none false sql.toList
    rw [lexWith_library, lexWith_library] at hlex
    unfold after normalize normalizeChars
    rw [String.toList_ofList]
    exact hlex
  rw [hafter]
  exact ⟨significant_laidOut none false before, fun k a b => gaps_laidOut_none,
    fun t => eq_space_of_mem_laidOut⟩

/-- A line comment between two words: they stay apart, and the quote in it opens nothing. -/
theorem normalize_preserves_around_comment :
    let before := lex "a -- it's\nb".toList
    (significant before)[0]? = some (.char 'a') ∧ (significant before)[1]? = some (.char 'b') ∧
      (gaps false (lex (normalize "a -- it's\nb").toList))[1]? = some true := by
  have hlex : lex "a -- it's\nb".toList = [.char 'a', .blank [' '], .lineComment "-- it's".toList,
      .blank ['\n'], .char 'b'] := by
    cbv
  obtain ⟨-, hgaps, -⟩ := normalize_preserves "a -- it's\nb"
  rw [hlex] at hgaps ⊢
  exact ⟨rfl, rfl, hgaps 0 (.char 'a') (.char 'b') rfl rfl rfl rfl⟩

end SqlMapper.Sql
