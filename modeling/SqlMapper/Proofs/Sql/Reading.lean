import SqlMapper.Sql.Token
/-!
# SqlMapper.Proofs.Sql.Reading

How SQL text is read in different dialects (`lexWith`): a backslash inside a literal escapes the character after
it, or it is a character like any other; and not every quote opens a literal in every dialect. The library
reads in a dialect with escapes and all three quotes (`lexWith_library`).

What counts for everything that is proved about texts put together is what may stand behind a token: a token
that is closed (`Token.isClosed`) is read again from its text, whatever stands behind it, unless that extends
it (`Reads.text_append_of_ends`); and what stands behind a token in a text does not extend it (`Reads.closed_of_rest`).
So two texts put together are read one after the other (`lexWith_append`).
-/

namespace SqlMapper.Sql

open SqlMapper.Text

/-! ### Dialects -/

/-- How literals are written. -/
structure Dialect where
  /-- Does a backslash inside a literal escape the character after it? -/
  escapes : Bool
  /-- Does a character open a literal? -/
  opens : Char → Bool
  isQuote_of_opens : ∀ {c}, opens c = true → isQuote c = true

/-- The dialect that the library reads. -/
def Dialect.library : Dialect := ⟨true, isQuote, fun h => h⟩

/-- The dialect of the standard: no escapes, and two quotes. -/
def Dialect.standard : Dialect where
  escapes := false
  opens c := c == '\'' || c == '"'
  isQuote_of_opens h := by
    rw [isQuote, h]
    rfl

/-- The rest of a literal after its opening quote, and what follows the literal. -/
def readLiteral (escapes : Bool) (q : Char) : List Char → List Char × List Char
  | [] => ([], [])
  | [c] => ([c], [])
  | c :: d :: cs =>
    if c = q then
      if d = q then (c :: d :: (readLiteral escapes q cs).1, (readLiteral escapes q cs).2)
      else ([c], d :: cs)
    else if escapes ∧ c = '\\' then
      (c :: d :: (readLiteral escapes q cs).1, (readLiteral escapes q cs).2)
    else (c :: (readLiteral escapes q (d :: cs)).1, (readLiteral escapes q (d :: cs)).2)

/-- The first token of a text that begins with `c`, and the rest. A quote that opens no literal is a character
like any other. -/
def nextWith (d : Dialect) (c : Char) (cs : List Char) : Token × List Char :=
  if d.opens c then (.quoted (c :: (readLiteral d.escapes c cs).1), (readLiteral d.escapes c cs).2)
  else if isQuote c then (.char c, cs)
  else nextToken c cs

theorem readLiteral_true (q : Char) (cs : List Char) : readLiteral true q cs = readQuoted q cs := by
  fun_induction readQuoted q cs <;> simp_all [readLiteral]

theorem readLiteral_append (escapes : Bool) (q : Char) (cs : List Char) :
    (readLiteral escapes q cs).1 ++ (readLiteral escapes q cs).2 = cs := by
  fun_induction readLiteral escapes q cs <;> simp_all

/-- The three quotes. -/
theorem isQuote_iff {c : Char} : isQuote c = true ↔ c = '\'' ∨ c = '"' ∨ c = Char.ofNat 0x60 := by
  unfold isQuote
  simp only [Bool.or_eq_true, beq_iff_eq]
  rw [or_assoc, ← Char.toNat_inj (d := Char.ofNat 0x60)]
  rfl

theorem not_isBlank_of_isQuote {c : Char} (h : isQuote c = true) : isBlank c = false := by
  rcases isQuote_iff.mp h with rfl | rfl | rfl <;> decide

theorem nextWith_library (c : Char) (cs : List Char) : nextWith .library c cs = nextToken c cs := by
  unfold nextWith Dialect.library
  split
  case isTrue h =>
      unfold nextToken
      rw [if_neg (by simp [not_isBlank_of_isQuote h]), if_pos h, readLiteral_true]
  case isFalse h => rfl

section
variable (d : Dialect)

theorem text_nextWith (c : Char) (cs : List Char) :
    (nextWith d c cs).1.text ++ (nextWith d c cs).2 = c :: cs := by
  unfold nextWith
  split
  · simp [Token.text, readLiteral_append]
  · split
    · rfl
    · exact text_nextToken c cs

theorem head_nextWith (c : Char) (cs : List Char) : ∃ tail, (nextWith d c cs).1.text = c :: tail := by
  have hne : (nextWith d c cs).1.text ≠ [] := by
    unfold nextWith
    split
    · simp [Token.text]
    · split
      · simp [Token.text]
      · exact text_nextToken_ne_nil c cs
  obtain ⟨e, tail, he⟩ := List.exists_cons_of_ne_nil hne
  have htext := text_nextWith d c cs
  rw [he, List.cons_append] at htext
  exact ⟨tail, by rw [he, (List.cons.inj htext).1]⟩

theorem length_nextWith_le (c : Char) (cs : List Char) : (nextWith d c cs).2.length ≤ cs.length := by
  obtain ⟨tail, htail⟩ := head_nextWith d c cs
  have h := congrArg List.length (text_nextWith d c cs)
  simp [htail] at h
  omega

/-- The tokens of a text. -/
def lexWith : List Char → List Token
  | [] => []
  | c :: cs => (nextWith d c cs).1 :: lexWith (nextWith d c cs).2
termination_by cs => cs.length
decreasing_by
  have := length_nextWith_le d c cs
  simp only [List.length_cons]
  omega

@[simp] theorem lexWith_nil : lexWith d [] = [] := by rw [lexWith]

theorem lexWith_cons (c : Char) (cs : List Char) :
    lexWith d (c :: cs) = (nextWith d c cs).1 :: lexWith d (nextWith d c cs).2 := by rw [lexWith]

/-- Nothing is lost in reading. -/
theorem flatMap_text_lexWith (cs : List Char) : (lexWith d cs).flatMap Token.text = cs := by
  fun_induction lexWith d cs with
  | case1 => rfl
  | case2 c cs ih => rw [List.flatMap_cons, ih, text_nextWith]

end

/-- The library reads its own dialect. -/
theorem lexWith_library (cs : List Char) : lexWith .library cs = lex cs := by
  fun_induction lex cs with
  | case1 => exact lexWith_nil _
  | case2 c cs ih => rw [lexWith_cons, nextWith_library, ih]

/-! ### What is the whole rest of a literal or of a comment -/

/-- Is a text the whole rest of a literal, up to and with its closing quote? -/
def isLiteralRest (escapes : Bool) (q : Char) : List Char → Bool
  | [] => false
  | [c] => c == q
  | c :: d :: cs =>
    if c = q then d == q && isLiteralRest escapes q cs
    else if escapes ∧ c = '\\' then isLiteralRest escapes q cs
    else isLiteralRest escapes q (d :: cs)

/-- Is a text the whole rest of a block comment, up to and with its end? -/
def isCommentRest : List Char → Bool
  | [] => false
  | '*' :: '/' :: cs => cs.isEmpty
  | _ :: cs => isCommentRest cs

/-- The rest of a literal is read again, unless its quote follows. -/
theorem readLiteral_rest_append {escapes : Bool} {q : Char} {cs : List Char}
    (h : isLiteralRest escapes q cs = true) {r : List Char} (hr : r.head? ≠ some q) :
    readLiteral escapes q (cs ++ r) = (cs, r) := by
  fun_induction isLiteralRest escapes q cs with
  | case1 => cases h
  | case2 c =>
      -- the closing quote
      have hc : c = q := by simpa using h
      cases r with
      | nil => simp [readLiteral]
      | cons d r =>
          have hd : d ≠ q := by simpa using hr
          simp [readLiteral, hc, hd]
  | case3 d cs ih =>
      rw [Bool.and_eq_true, beq_iff_eq] at h
      simp [readLiteral, h.1, ih h.2]
  | case4 c d cs hc hesc ih =>
      rw [List.cons_append, List.cons_append, readLiteral, if_neg hc, if_pos hesc, ih h]
  | case5 c d cs hc hesc ih =>
      have hread := ih h
      rw [List.cons_append] at hread
      rw [List.cons_append, List.cons_append, readLiteral, if_neg hc, if_neg hesc, hread]

/-- A literal that does not reach the end of the text is closed, and no quote of its kind follows. -/
theorem isLiteralRest_of_rest {escapes : Bool} {q : Char} {cs : List Char}
    (h : (readLiteral escapes q cs).2 ≠ []) :
    isLiteralRest escapes q (readLiteral escapes q cs).1 = true ∧
      (readLiteral escapes q cs).2.head? ≠ some q := by
  fun_induction readLiteral escapes q cs with
  | case1 => exact absurd rfl h
  | case2 => exact absurd rfl h
  | case3 cs ih => simpa [isLiteralRest] using ih h
  | case4 d cs hd => simp [isLiteralRest, hd]
  | case5 c d cs hc hesc ih => simpa only [isLiteralRest, if_neg hc, if_pos hesc] using ih h
  | case6 c d cs hc hesc ih =>
      obtain ⟨hrest, hhead⟩ := ih h
      refine ⟨?_, hhead⟩
      -- what is read after a character that ends nothing is not empty
      cases hread : (readLiteral escapes q (d :: cs)).1 with
      | nil =>
          rw [hread] at hrest
          cases hrest
      | cons e es =>
          rw [hread] at hrest
          simpa only [isLiteralRest, if_neg hc, if_neg hesc] using hrest

/-- The rest of a literal ends in its quote. -/
theorem getLast?_of_isLiteralRest {escapes : Bool} {q : Char} {cs : List Char}
    (h : isLiteralRest escapes q cs = true) : cs.getLast? = some q := by
  have hne : ∀ {ds : List Char}, ds.getLast? = some q → ∀ c, (c :: ds).getLast? = some q := by
    intro ds hds c
    rw [List.getLast?_cons, hds]
    rfl
  fun_induction isLiteralRest escapes q cs with
  | case1 => cases h
  | case2 c => simpa using h
  | case3 d cs ih =>
      rw [Bool.and_eq_true] at h
      exact hne (hne (ih h.2) d) _
  | case4 c d cs hc hesc ih => exact hne (hne (ih h) d) c
  | case5 c d cs hc hesc ih => exact hne (ih h) c

/-- Where a block comment does not end, it goes on. -/
theorem readComment_cons {c : Char} {cs : List Char} (h : ¬ (c = '*' ∧ cs.head? = some '/')) :
    readComment (c :: cs) = (c :: (readComment cs).1, (readComment cs).2) := by
  rw [readComment]
  rintro ds rfl rfl
  exact h ⟨rfl, rfl⟩

theorem isCommentRest_cons {c : Char} {cs : List Char} (h : ¬ (c = '*' ∧ cs.head? = some '/')) :
    isCommentRest (c :: cs) = isCommentRest cs := by
  rw [isCommentRest]
  rintro ds rfl rfl
  exact h ⟨rfl, rfl⟩

/-- The rest of a comment is read again, whatever follows. -/
theorem readComment_rest_append {cs : List Char} (h : isCommentRest cs = true) (r : List Char) :
    readComment (cs ++ r) = (cs, r) := by
  fun_induction isCommentRest cs with
  | case1 => cases h
  | case2 cs =>
      rw [List.isEmpty_iff] at h
      simp [h, readComment]
  | case3 c cs hend ih =>
      -- the comment does not end here, and what follows it does not change that
      have hgoes : ¬ (c = '*' ∧ (cs ++ r).head? = some '/') := by
        rintro ⟨hc, hd⟩
        cases cs with
        | nil => cases h
        | cons d cs => exact hend cs hc (by simpa using hd)
      rw [List.cons_append, readComment_cons hgoes, ih h]

/-- A comment that does not reach the end of the text is closed. -/
theorem isCommentRest_of_rest {cs : List Char} (h : (readComment cs).2 ≠ []) :
    isCommentRest (readComment cs).1 = true := by
  fun_induction readComment cs with
  | case1 => exact absurd rfl h
  | case2 cs => rfl
  | case3 c cs hend ih =>
      have hgoes : ¬ (c = '*' ∧ (readComment cs).1.head? = some '/') := by
        rintro ⟨hc, hd⟩
        have happend := readComment_append cs
        cases hread : (readComment cs).1 with
        | nil => simp [hread] at hd
        | cons d ds =>
            rw [hread] at hd happend
            cases hd
            exact hend _ hc happend.symm
      rw [isCommentRest_cons hgoes]
      exact ih h

/-! ### What may stand behind a token -/

namespace Token

/-- Would a character behind a token be read as part of it, or make another token of it? -/
def extendedBy (t : Token) (x : Char) : Bool :=
  match t with
  | blank _ => isBlank x
  | lineComment _ => x != '\n'
  | quoted cs => cs.head? == some x
  | blockComment _ => false
  | char c => (c == '-' && x == '-') || (c == '/' && x == '*')

/-- Does a literal or a block comment have its end? Other tokens need none. -/
def isClosed (escapes : Bool) : Token → Bool
  | quoted (q :: cs) => isLiteralRest escapes q cs
  | quoted [] => false
  | blockComment cs => isCommentRest (cs.drop 2)
  | _ => true

end Token

/-- A text that stands behind a token does not extend it. -/
def Token.Ends (t : Token) (r : List Char) : Prop := ∀ x, r.head? = some x → t.extendedBy x = false

theorem Token.Ends.append {t : Token} {r : List Char} (h : t.Ends r) (hr : r ≠ []) (s : List Char) :
    t.Ends (r ++ s) := by
  cases r with
  | nil => exact absurd rfl hr
  | cons x r => exact h

/-- The first token of a text that begins with `c`, and the rest, by the kinds of tokens. -/
inductive Reads (d : Dialect) : Char → List Char → Token → List Char → Prop
  | blank {c : Char} (cs : List Char) (blank : isBlank c = true) :
      Reads d c cs (.blank (c :: cs.takeWhile isBlank)) (cs.dropWhile isBlank)
  | quoted {c : Char} (cs : List Char) (quote : d.opens c = true) :
      Reads d c cs (.quoted (c :: (readLiteral d.escapes c cs).1)) (readLiteral d.escapes c cs).2
  | lineComment (cs : List Char) :
      Reads d '-' ('-' :: cs) (.lineComment ('-' :: '-' :: cs.takeWhile (· != '\n')))
        (cs.dropWhile (· != '\n'))
  | blockComment (cs : List Char) :
      Reads d '/' ('*' :: cs) (.blockComment ('/' :: '*' :: (readComment cs).1))
        (readComment cs).2
  | char {c : Char} {cs : List Char} (notBlank : isBlank c = false) (notQuote : d.opens c = false)
      (ends : (Token.char c).Ends cs) : Reads d c cs (.char c) cs

variable {d : Dialect} {c : Char} {cs r : List Char} {t : Token}

/-- Other characters than quotes are read as the library reads them. -/
theorem nextWith_of_not_isQuote (hq : ¬ isQuote c = true) : nextWith d c cs = nextToken c cs := by
  unfold nextWith
  rw [if_neg fun ho => hq (d.isQuote_of_opens ho), if_neg hq]

theorem reads_nextToken (hq : ¬ isQuote c = true) :
    Reads d c cs (nextToken c cs).1 (nextToken c cs).2 := by
  unfold nextToken
  rw [if_neg hq]
  split
  case isTrue hb => exact .blank cs hb
  case isFalse hb =>
      split
      case isTrue h =>
          obtain ⟨rfl, hd⟩ := h
          obtain ⟨ds, rfl⟩ := List.head?_eq_some_iff.mp hd
          exact .lineComment ds
      case isFalse hline =>
          split
          case isTrue h =>
              obtain ⟨rfl, hd⟩ := h
              obtain ⟨ds, rfl⟩ := List.head?_eq_some_iff.mp hd
              exact .blockComment ds
          case isFalse hblock =>
              have notOpens : d.opens c = false := by simpa using fun ho => hq (d.isQuote_of_opens ho)
              refine .char (by simpa using hb) notOpens fun x hx => ?_
              rw [hx] at hline hblock
              simp only [Token.extendedBy, Bool.or_eq_false_iff, Bool.and_eq_false_imp, beq_iff_eq,
                beq_eq_false_iff_ne]
              exact ⟨fun hc hd => hline ⟨hc, by rw [hd]⟩, fun hc hd => hblock ⟨hc, by rw [hd]⟩⟩

theorem reads_nextWith (d : Dialect) (c : Char) (cs : List Char) :
    Reads d c cs (nextWith d c cs).1 (nextWith d c cs).2 := by
  by_cases hq : isQuote c = true
  · unfold nextWith
    split
    case isTrue ho => exact .quoted cs ho
    case isFalse ho =>
        refine .char (not_isBlank_of_isQuote hq) (by simpa using ho) fun x _ => ?_
        rcases isQuote_iff.mp hq with rfl | rfl | rfl <;> simp [Token.extendedBy]
  · rw [nextWith_of_not_isQuote hq]
    exact reads_nextToken hq

theorem Reads.eq (h : Reads d c cs t r) : nextWith d c cs = (t, r) := by
  cases h with
  | blank cs hb =>
      have hq : ¬ isQuote c = true := fun hq => by simp [not_isBlank_of_isQuote hq] at hb
      rw [nextWith_of_not_isQuote hq, nextToken, if_pos hb]
  | quoted cs ho => rw [nextWith, if_pos ho]
  | lineComment cs =>
      rw [nextWith_of_not_isQuote (by decide), nextToken, if_neg (by decide), if_neg (by decide),
        if_pos ⟨rfl, rfl⟩]
      rfl
  | blockComment cs =>
      rw [nextWith_of_not_isQuote (by decide), nextToken, if_neg (by decide), if_neg (by decide),
        if_neg (by simp), if_pos ⟨rfl, rfl⟩]
      rfl
  | char hb ho ends =>
      have hline : ¬ (c = '-' ∧ cs.head? = some '-') := by
        rintro ⟨rfl, hd⟩
        exact absurd (ends '-' hd) (by decide)
      have hblock : ¬ (c = '/' ∧ cs.head? = some '*') := by
        rintro ⟨rfl, hd⟩
        exact absurd (ends '*' hd) (by decide)
      by_cases hq : isQuote c = true
      · simp [nextWith, ho, hq]
      · rw [nextWith_of_not_isQuote hq, nextToken, if_neg (by simp [hb]), if_neg hq, if_neg hline,
          if_neg hblock]

/-- What is read first and the rest make up the text. -/
theorem Reads.text_append (h : Reads d c cs t r) : t.text ++ r = c :: cs := by
  have htext := text_nextWith d c cs
  rwa [h.eq] at htext

/-- The text of what is read first, but for its first character. -/
theorem Reads.tail_append (h : Reads d c cs t r) : t.text.tail ++ r = cs := by
  obtain ⟨tail, htail⟩ := head_nextWith d c cs
  rw [h.eq] at htail
  have htext := h.text_append
  rw [htail, List.cons_append] at htext
  rw [htail, List.tail_cons]
  exact (List.cons.inj htext).2

theorem Reads.text_eq (h : Reads d c cs t r) : t.text = c :: t.text.tail := by
  obtain ⟨tail, htail⟩ := head_nextWith d c cs
  rw [h.eq] at htail
  rw [htail, List.tail_cons]

/-- What stands behind a token in a text does not extend it, and the token is closed. -/
theorem Reads.closed_of_rest (h : Reads d c cs t r) (hr : r ≠ []) :
    t.isClosed d.escapes = true ∧ t.Ends r := by
  cases h with
  | blank cs hb =>
      refine ⟨rfl, fun x hx => ?_⟩
      have hnot := List.head?_dropWhile_not isBlank cs
      rw [hx] at hnot
      simpa [Token.extendedBy] using hnot
  | quoted cs hq =>
      obtain ⟨hrest, hhead⟩ := isLiteralRest_of_rest hr
      refine ⟨hrest, fun x hx => ?_⟩
      have hne : c ≠ x := fun hc => hhead (by rw [hx, hc])
      simp [Token.extendedBy, hne]
  | lineComment cs =>
      refine ⟨rfl, fun x hx => ?_⟩
      have hnot := List.head?_dropWhile_not (· != '\n') cs
      rw [hx] at hnot
      simpa [Token.extendedBy] using hnot
  | blockComment cs => exact ⟨isCommentRest_of_rest hr, fun x _ => rfl⟩
  | char hb hq ends => exact ⟨rfl, ends⟩

/-- A run of characters of a class is read again, if no such character follows. -/
theorem takeWhile_append_of_ends (p : Char → Bool) (as : List Char) {bs : List Char}
    (hbs : ∀ b, bs.head? = some b → p b = false) :
    (as.takeWhile p ++ bs).takeWhile p = as.takeWhile p ∧ (as.takeWhile p ++ bs).dropWhile p = bs := by
  have has : ∀ a ∈ as.takeWhile p, p a = true := fun a ha => List.all_eq_true.mp List.all_takeWhile a ha
  rw [List.takeWhile_append_of_pos has, List.dropWhile_append_of_pos has]
  cases bs with
  | nil => simp
  | cons b bs => simp [hbs b rfl]

/-- A closed token is read again from its text, if what follows does not extend it. -/
theorem Reads.text_append_of_ends (h : Reads d c cs t r) (closed : t.isClosed d.escapes = true)
    {s : List Char} (ends : t.Ends s) : Reads d c (t.text.tail ++ s) t s := by
  cases h with
  | blank cs hb =>
      obtain ⟨htake, hdrop⟩ := takeWhile_append_of_ends isBlank cs ends
      have hread : Reads d c (cs.takeWhile isBlank ++ s) _ _ := .blank _ hb
      rwa [htake, hdrop] at hread
  | quoted cs hq =>
      have hs : s.head? ≠ some c := fun hs => by simpa [Token.extendedBy] using ends c hs
      have hread : Reads d c ((readLiteral d.escapes c cs).1 ++ s) _ _ := .quoted _ hq
      rwa [readLiteral_rest_append closed hs] at hread
  | lineComment cs =>
      obtain ⟨htake, hdrop⟩ := takeWhile_append_of_ends (· != '\n') cs ends
      have hread : Reads d '-' ('-' :: (cs.takeWhile (· != '\n') ++ s)) _ _ := .lineComment _
      rwa [htake, hdrop] at hread
  | blockComment cs =>
      have closed' : isCommentRest (readComment cs).1 = true := closed
      have hread : Reads d '/' ('*' :: ((readComment cs).1 ++ s)) _ _ := .blockComment _
      rwa [readComment_rest_append closed'] at hread
  | char hb hq _ => exact .char hb hq ends

/-! ### Texts put together -/

theorem Reads.lexWith_eq (h : Reads d c cs t r) :
    lexWith d (c :: cs) = t :: lexWith d r := by
  rw [lexWith_cons, h.eq]

/-- A text may be followed by another if its last token is closed and the other text does not extend it. -/
def MayPrecede (d : Dialect) (cs r : List Char) : Prop :=
  ∀ t, (lexWith d cs).getLast? = some t → t.isClosed d.escapes = true ∧ t.Ends r

/-- Texts that are put together are read one after the other, if the first ends where the other begins. -/
theorem lexWith_append {p r : List Char} (h : MayPrecede d p r) :
    lexWith d (p ++ r) = lexWith d p ++ lexWith d r := by
  fun_induction lexWith d p with
  | case1 => rfl
  | case2 c cs ih =>
      have hread := reads_nextWith d c cs
      generalize (nextWith d c cs).1 = t at *
      generalize (nextWith d c cs).2 = rest at *
      have hlex := hread.lexWith_eq
      by_cases hrest : rest = []
      · -- the last token of the first text
        subst hrest
        obtain ⟨closed, ends⟩ := h t (by rw [hlex]; simp)
        have hcs := hread.tail_append
        rw [List.append_nil] at hcs
        have hagain := hread.text_append_of_ends closed ends
        rw [hcs] at hagain
        rw [List.cons_append, hagain.lexWith_eq]
        simp
      · obtain ⟨closed, ends⟩ := hread.closed_of_rest hrest
        have hagain := hread.text_append_of_ends closed (ends.append hrest r)
        rw [← List.append_assoc, hread.tail_append] at hagain
        rw [List.cons_append, hagain.lexWith_eq, List.cons_append]
        congr 1
        refine ih fun u hu => h u ?_
        rw [hlex, List.getLast?_cons, hu]
        rfl

end SqlMapper.Sql
