import SqlMapper.Sql.Literal
import SqlMapper.Proofs.Sql.OneLine
/-!
# SqlMapper.Proofs.Sql.Quotation

A text that is written as a literal, and the same literal read again. The writer doubles quotes and does
nothing else. A reader to which a backslash is a character like any other ends the literal where the writer
did, whatever the text is (`isLiteralRest_escapeQuotes`), and taking one of two quotes gives the text back
(`undouble_escapeQuotes`).

To the library's own reader a backslash is an escape. It ends the literal where the writer did if no backslash
of the text comes before a quote or at its end (`isInert`), and else it does not (`literal_boundary`): then the
one-line form takes for a literal what is none, and the other way round.
-/

namespace SqlMapper.Sql

open SqlMapper.Text

/-- Read with escapes, does no backslash of a text escape a quote or what stands behind the text? -/
def isInert : List Char → Bool
  | [] => true
  | [c] => c != '\\'
  | c :: d :: cs => if c = '\\' then d != '\'' && isInert cs else isInert (d :: cs)

/-- The inside of a literal as a text: of two quotes one is taken. -/
def undouble : List Char → List Char
  | '\'' :: '\'' :: cs => '\'' :: undouble cs
  | c :: cs => c :: undouble cs
  | [] => []

/-! ### Single characters -/

@[simp] theorem escapeQuotes_nil : escapeQuotes [] = [] := rfl

@[simp] theorem escapeQuotes_quote (cs : List Char) :
    escapeQuotes ('\'' :: cs) = '\'' :: '\'' :: escapeQuotes cs := by simp [escapeQuotes]

theorem escapeQuotes_cons {c : Char} (hc : c ≠ '\'') (cs : List Char) :
    escapeQuotes (c :: cs) = c :: escapeQuotes cs := by simp [escapeQuotes, hc]

variable {escapes : Bool} {q c d : Char} {cs r : List Char}

@[simp] theorem isLiteralRest_end : isLiteralRest escapes q [q] = true := by simp [isLiteralRest]

@[simp] theorem isLiteralRest_doubled :
    isLiteralRest escapes q (q :: q :: cs) = isLiteralRest escapes q cs := by simp [isLiteralRest]

theorem isLiteralRest_cons (hc : c ≠ q) (hesc : ¬ (escapes = true ∧ c = '\\')) :
    isLiteralRest escapes q (c :: cs) = isLiteralRest escapes q cs := by
  cases cs with
  | nil => simp [isLiteralRest, hc]
  | cons d cs => rw [isLiteralRest, if_neg hc, if_neg hesc]

theorem isLiteralRest_escaped (hq : q ≠ '\\') :
    isLiteralRest true q ('\\' :: d :: cs) = isLiteralRest true q cs := by
  rw [isLiteralRest, if_neg hq.symm, if_pos ⟨rfl, rfl⟩]

/-! ### Literals as written -/

/-- To a reader without escapes, what is written ends where the writer ended it. -/
theorem isLiteralRest_escapeQuotes (cs : List Char) :
    isLiteralRest false '\'' (escapeQuotes cs ++ ['\'']) = true := by
  induction cs with
  | nil => exact isLiteralRest_end
  | cons c cs ih =>
      by_cases hc : c = '\''
      · subst hc
        simpa using ih
      · rw [escapeQuotes_cons hc, List.cons_append, isLiteralRest_cons hc (by simp)]
        exact ih

/-- Where one of two quotes is taken away, the others no longer come in pairs. -/
theorem isLiteralRest_quote_escapeQuotes (cs : List Char) :
    isLiteralRest escapes '\'' ('\'' :: (escapeQuotes cs ++ ['\''])) = false := by
  induction cs with
  | nil => simp [isLiteralRest]
  | cons c cs ih =>
      by_cases hc : c = '\''
      · subst hc
        simpa using ih
      · simp [escapeQuotes_cons hc, isLiteralRest, hc]

/-- To a reader with escapes, it ends there if no backslash escapes a quote. -/
theorem isLiteralRest_escapeQuotes_eq_isInert (cs : List Char) :
    isLiteralRest true '\'' (escapeQuotes cs ++ ['\'']) = isInert cs := by
  fun_induction isInert cs with
  | case1 => exact isLiteralRest_end
  | case2 c =>
      by_cases hquote : c = '\''
      · subst hquote
        decide
      · by_cases hc : c = '\\'
        · subst hc
          decide
        · simp [escapeQuotes_cons hquote, isLiteralRest_cons hquote, hc]
  | case3 d cs ih =>
      rw [escapeQuotes_cons (by decide), List.cons_append]
      by_cases hd : d = '\''
      · subst hd
        rw [escapeQuotes_quote, List.cons_append, List.cons_append, isLiteralRest_escaped (by decide)]
        simpa using isLiteralRest_quote_escapeQuotes cs
      · rw [escapeQuotes_cons hd, List.cons_append, isLiteralRest_escaped (by decide), ih]
        simp [hd]
  | case4 c d cs hc ih =>
      by_cases hquote : c = '\''
      · subst hquote
        rw [escapeQuotes_quote, List.cons_append, List.cons_append, isLiteralRest_doubled, ih]
      · rw [escapeQuotes_cons hquote, List.cons_append, isLiteralRest_cons hquote (by simp [hc]), ih]

/-- The inside of a literal gives back the text that was written. -/
@[simp] theorem undouble_escapeQuotes (cs : List Char) : undouble (escapeQuotes cs) = cs := by
  induction cs with
  | nil => rfl
  | cons c cs ih =>
      by_cases hc : c = '\''
      · subst hc
        rw [escapeQuotes_quote, undouble, ih]
      · rw [escapeQuotes_cons hc, undouble, ih]
        rintro ds rfl
        exact absurd rfl hc

/-- A whole literal is read as one token, unless its quote follows. -/
theorem lexWith_literal {d : Dialect} {rest : List Char} (hq : d.opens q = true)
    (h : isLiteralRest d.escapes q rest = true) (hr : r.head? ≠ some q) :
    lexWith d (q :: (rest ++ r)) = .quoted (q :: rest) :: lexWith d r := by
  have hread : Reads d q (rest ++ r) _ _ := .quoted (rest ++ r) hq
  rw [readLiteral_rest_append h hr] at hread
  exact hread.lexWith_eq

/-- A text in which a literal stands is read as what is before it, the literal, and what is behind it. -/
theorem lexWith_around_literal {d : Dialect} {p rest : List Char} (hq : d.opens q = true)
    (h : isLiteralRest d.escapes q rest = true) (hp : MayPrecede d p [q]) (hr : r.head? ≠ some q) :
    lexWith d (p ++ (q :: rest) ++ r) = lexWith d p ++ .quoted (q :: rest) :: lexWith d r := by
  have before : MayPrecede d p (q :: (rest ++ r)) := hp
  rw [List.append_assoc, List.cons_append, lexWith_append before, lexWith_literal hq h hr]

/-! ### Texts before a literal -/

/-- Does a text consist of whole tokens and end outside of literals and comments? -/
def isComplete (d : Dialect) (cs : List Char) : Bool :=
  match (lexWith d cs).getLast? with
  | none => true
  | some (.lineComment _) => false
  | some t => t.isClosed d.escapes

/-- A complete text may stand before a literal, if it does not end in a quote itself. -/
theorem mayPrecede_of_isComplete {d : Dialect} {cs : List Char} (h : isComplete d cs = true)
    (hlast : cs.getLast? ≠ some '\'') : MayPrecede d cs ['\''] := by
  intro t ht
  unfold isComplete at h
  rw [ht] at h
  obtain ⟨ts, hts⟩ := List.getLast?_eq_some_iff.mp ht
  have htext := flatMap_text_lexWith d cs
  rw [hts, List.flatMap_append, List.flatMap_cons, List.flatMap_nil, List.append_nil] at htext
  have ends : ∀ {t : Token}, t.extendedBy '\'' = false → t.Ends ['\''] := by
    intro t ht x hx
    cases hx
    exact ht
  cases t with
  | blank cs => exact ⟨rfl, ends (show isBlank '\'' = false by decide)⟩
  | lineComment cs => cases h
  | blockComment cs => exact ⟨h, ends rfl⟩
  | char c => exact ⟨rfl, ends (by simp [Token.extendedBy])⟩
  | quoted literal =>
      refine ⟨h, ends ?_⟩
      cases literal with
      | nil => rfl
      | cons q rest =>
          -- the text ends in the literal's own quote, so that is another one than the one behind it
          have hrest : rest.getLast? = some q := getLast?_of_isLiteralRest h
          have hq : q ≠ '\'' := by
            rintro rfl
            refine hlast ?_
            rw [← htext, List.getLast?_append, Token.text, List.getLast?_cons, hrest]
            rfl
          simp [Token.extendedBy, hq]

/-! ### The library's own reader -/

/-- **Where the library's reader ends a literal that the library wrote.** A printed text and a text under the
filter for texts are the same literal. The reader ends it where the writer did if the text is inert, and
then the one-line form leaves the literal as it is and reads what is behind it as what it is; with anything
behind it, the reader ends it there only if the text is inert. -/
theorem literal_boundary (v : String) :
    ∃ literal, finalText (.str v) = .ok (String.ofList literal) ∧
      Filter.string.apply (.str v) = .ok (String.ofList literal) ∧
      ∀ r : List Char, r.head? ≠ some '\'' →
        (isInert v.toList = true → readQuoted '\'' (literal.tail ++ r) = (literal.tail, r) ∧
          ∀ p, MayPrecede .library p ['\''] →
            significant (lex (normalizeChars (p ++ literal ++ r))) =
              significant (lex p) ++ .quoted literal :: significant (lex r)) ∧
        (r ≠ [] → readQuoted '\'' (literal.tail ++ r) = (literal.tail, r) → isInert v.toList = true) := by
  refine ⟨quoteChars v.toList, rfl, rfl, fun r hr => ⟨fun inert => ?_, fun hne hread => ?_⟩⟩
  · have closed := isLiteralRest_escapeQuotes_eq_isInert v.toList
    rw [inert] at closed
    refine ⟨?_, fun p hp => ?_⟩
    · have hread := readLiteral_rest_append closed hr
      rwa [readLiteral_true] at hread
    · have tokens := lexWith_around_literal (by decide) closed hp hr
      rw [lexWith_library, lexWith_library, lexWith_library] at tokens
      have oneLine := lexWith_layOut none false (p ++ quoteChars v.toList ++ r)
      rw [lexWith_library, lexWith_library] at oneLine
      rw [normalizeChars, oneLine, significant_laidOut]
      simp only [quoteChars, tokens]
      simp [significant, Token.isSeparator]
  · -- something is left, so the reader found the end of the literal
    rw [← readLiteral_true] at hread
    have ended : (readLiteral true '\'' ((quoteChars v.toList).tail ++ r)).2 ≠ [] := by
      rw [hread]
      exact hne
    have closed := (isLiteralRest_of_rest ended).1
    rw [hread] at closed
    rw [← isLiteralRest_escapeQuotes_eq_isInert]
    exact closed

/-- A text with a quote and a backslash that is inert. -/
theorem literal_boundary_of_inert :
    finalText (.str "it's \\n") = .ok "'it''s \\n'" ∧
      significant (lex (normalizeChars ("( ".toList ++ "'it''s \\n'".toList ++ " -- '".toList))) =
        [.char '(', .quoted "'it''s \\n'".toList] := by
  obtain ⟨literal, hprinted, -, hboundary⟩ := literal_boundary "it's \\n"
  have hliteral : literal = "'it''s \\n'".toList := by
    have htext : String.ofList literal = "'it''s \\n'" := (Except.ok.inj hprinted).symm.trans (by decide)
    rw [← htext, String.toList_ofList]
  obtain ⟨hinert, -⟩ := hboundary " -- '".toList (by decide)
  refine ⟨rfl, ?_⟩
  rw [← hliteral]
  have before : lexWith .library "( ".toList = [.char '(', .blank [' ']] := by cbv
  obtain ⟨-, hcopied⟩ := hinert (by decide)
  rw [hcopied "( ".toList]
  · cbv
  · intro t ht
    rw [before] at ht
    cases ht
    exact ⟨rfl, fun x hx => by cases hx; decide⟩

/-- A backslash at the end of a text: the literal is not ended, and the next one loses a blank. -/
theorem literal_boundary_of_backslash :
    finalText (.str "a\\") = .ok "'a\\'" ∧
      readQuoted '\'' "a\\', 'x  y'".toList = ("a\\', '".toList, "x  y'".toList) ∧
      normalize "SELECT 'a\\', 'x  y'" = "SELECT 'a\\', 'x y'" := by
  refine ⟨rfl, by decide, ?_⟩
  cbv

end SqlMapper.Sql
