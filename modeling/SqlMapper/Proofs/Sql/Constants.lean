import Mathlib
import SqlMapper.Proofs.Sql.Quotation
/-!
# SqlMapper.Proofs.Sql.Constants

The constants of SQL, by their grammar (`IsConstant`): the words `NULL`, `TRUE` and `FALSE`, integers with or
without a sign, quoted texts in which a quote is written twice, and lists of these with commas between them and
parentheses around.

The grammar is unambiguous (`IsConstant.unique`). What carries this is that the literal at the front of a text
can be read off it (`readFirst`), as long as what follows does not go on with it (`Delimits`): so two ways to
cut a list into literals agree on the first one, hence on the rest. What is printed for a value is in the
grammar, so it can be read in one way only, which gives the value back (`printed_reads_back`).
-/

namespace SqlMapper.Sql

open SqlMapper.Text

/-! ### The grammar -/

/-- Single values that SQL has literals for. -/
inductive Scalar
  | null
  | bool (b : Bool)
  | int (n : Int)
  | text (s : String)
  deriving Repr, DecidableEq

/-- What a constant stands for. -/
inductive Constant
  | single (x : Scalar)
  | list (xs : List Scalar)
  deriving Repr, DecidableEq

/-- The inside of a quoted literal, and the text that it stands for. -/
inductive IsInside : List Char → List Char → Prop
  | nil : IsInside [] []
  | quote {cs s : List Char} (rest : IsInside cs s) : IsInside ('\'' :: '\'' :: cs) ('\'' :: s)
  | char {c : Char} {cs s : List Char} (hc : c ≠ '\'') (rest : IsInside cs s) : IsInside (c :: cs) (c :: s)

/-- Digits, and the number that they spell. -/
inductive IsNumeral : List Char → Nat → Prop
  | digits {ds : List Char} (ne : ds ≠ []) (all : ∀ d ∈ ds, d.isDigit = true) :
      IsNumeral ds (Nat.ofDigitChars 10 ds 0)

/-- Literals of single values. -/
inductive IsLiteral : List Char → Scalar → Prop
  | null : IsLiteral ['N', 'U', 'L', 'L'] .null
  | yes : IsLiteral ['T', 'R', 'U', 'E'] (.bool true)
  | no : IsLiteral ['F', 'A', 'L', 'S', 'E'] (.bool false)
  | unsigned {ds : List Char} {n : Nat} (numeral : IsNumeral ds n) : IsLiteral ds (.int n)
  | positive {ds : List Char} {n : Nat} (numeral : IsNumeral ds n) : IsLiteral ('+' :: ds) (.int n)
  | negative {ds : List Char} {n : Nat} (numeral : IsNumeral ds n) : IsLiteral ('-' :: ds) (.int (-n))
  | text {cs s : List Char} (inside : IsInside cs s) :
      IsLiteral ('\'' :: (cs ++ ['\''])) (.text (String.ofList s))

/-- Literals with commas between them; there may be blanks around a comma. -/
inductive AreLiterals : List Char → List Scalar → Prop
  | last {cs : List Char} {x : Scalar} (literal : IsLiteral cs x) : AreLiterals cs [x]
  | next {cs before behind ds : List Char} {x : Scalar} {xs : List Scalar} (literal : IsLiteral cs x)
      (blankBefore : ∀ c ∈ before, isBlank c = true) (blankBehind : ∀ c ∈ behind, isBlank c = true)
      (rest : AreLiterals ds xs) : AreLiterals (cs ++ (before ++ ',' :: (behind ++ ds))) (x :: xs)

/-- Constants: a literal, or a list of literals in parentheses. -/
inductive IsConstant : List Char → Constant → Prop
  | single {cs : List Char} {x : Scalar} (literal : IsLiteral cs x) : IsConstant cs (.single x)
  | list {cs : List Char} {xs : List Scalar} (literals : AreLiterals cs xs) :
      IsConstant ('(' :: (cs ++ [')'])) (.list xs)

/-! ### The literal at the front of a text -/

/-- A text that does not go on with a literal before it. -/
def Delimits (r : List Char) : Prop := ∀ c, r.head? = some c → c.isAlphanum = false ∧ c ≠ '\''

theorem delimits_nil : Delimits [] := fun _ hc => nomatch hc

/-- What a word or number stands for. -/
def wordValue (w : List Char) : Scalar :=
  if w = ['N', 'U', 'L', 'L'] then .null
  else if w = ['T', 'R', 'U', 'E'] then .bool true
  else if w = ['F', 'A', 'L', 'S', 'E'] then .bool false
  else .int (Nat.ofDigitChars 10 w 0)

/-- What the literal at the front of a text stands for, and what follows it. -/
def readFirst : List Char → Scalar × List Char
  | [] => (.null, [])
  | c :: cs =>
    if c = '\'' then
      (.text (String.ofList (undouble (readLiteral false '\'' cs).1.dropLast)), (readLiteral false '\'' cs).2)
    else if c = '+' then
      (.int (Nat.ofDigitChars 10 (cs.takeWhile Char.isAlphanum) 0), cs.dropWhile Char.isAlphanum)
    else if c = '-' then
      (.int (-(Nat.ofDigitChars 10 (cs.takeWhile Char.isAlphanum) 0)), cs.dropWhile Char.isAlphanum)
    else (wordValue ((c :: cs).takeWhile Char.isAlphanum), (c :: cs).dropWhile Char.isAlphanum)

variable {cs ds r r' s w : List Char} {x y : Scalar} {xs ys : List Scalar} {n : Nat}

theorem IsInside.isLiteralRest (h : IsInside cs s) : isLiteralRest false '\'' (cs ++ ['\'']) = true := by
  induction h with
  | nil => exact isLiteralRest_end
  | quote rest ih => rwa [List.cons_append, List.cons_append, isLiteralRest_doubled]
  | char hc rest ih => rwa [List.cons_append, isLiteralRest_cons hc (by simp)]

theorem IsInside.undouble_eq (h : IsInside cs s) : undouble cs = s := by
  induction h with
  | nil => rfl
  | quote rest ih => rw [undouble, ih]
  | char hc rest ih =>
      rw [undouble, ih]
      rintro ds rfl
      exact absurd rfl hc

theorem takeWhile_word (hw : ∀ c ∈ w, c.isAlphanum = true) (hr : Delimits r) :
    (w ++ r).takeWhile Char.isAlphanum = w := by
  rw [List.takeWhile_append_of_pos hw]
  cases r with
  | nil => simp
  | cons c r => simp [(hr c rfl).1]

theorem dropWhile_word (hw : ∀ c ∈ w, c.isAlphanum = true) (hr : Delimits r) :
    (w ++ r).dropWhile Char.isAlphanum = r := by
  rw [List.dropWhile_append_of_pos hw]
  cases r with
  | nil => rfl
  | cons c r => simp [(hr c rfl).1]

theorem readFirst_word {c : Char} {w : List Char} (hw : ∀ d ∈ c :: w, d.isAlphanum = true) (hr : Delimits r) :
    readFirst (c :: w ++ r) = (wordValue (c :: w), r) := by
  have hne : ∀ d : Char, d.isAlphanum = false → c ≠ d := by
    rintro d hd rfl
    rw [hw c (by simp)] at hd
    cases hd
  have htake := takeWhile_word hw hr
  have hdrop := dropWhile_word hw hr
  rw [List.cons_append] at htake hdrop ⊢
  rw [readFirst, if_neg (hne _ (by decide)), if_neg (hne _ (by decide)), if_neg (hne _ (by decide)), htake, hdrop]

theorem isAlphanum_of_isDigit {c : Char} (h : c.isDigit = true) : c.isAlphanum = true := by
  simp [Char.isAlphanum, h]

/-- A numeral is no word. -/
theorem IsNumeral.wordValue_eq (h : IsNumeral ds n) : wordValue ds = .int n := by
  cases h with
  | digits ne all =>
      have hne : ∀ {c : Char} {w : List Char}, c.isDigit = false → ds ≠ c :: w := by
        rintro c w hc rfl
        rw [all c (by simp)] at hc
        cases hc
      rw [wordValue, if_neg (hne (by decide)), if_neg (hne (by decide)), if_neg (hne (by decide))]

theorem IsNumeral.isAlphanum (h : IsNumeral ds n) : ∀ d ∈ ds, d.isAlphanum = true := by
  cases h with
  | digits ne all => exact fun d hd => isAlphanum_of_isDigit (all d hd)

theorem IsNumeral.ofDigitChars_eq (h : IsNumeral ds n) : Nat.ofDigitChars 10 ds 0 = n := by
  cases h with
  | digits => rfl

/-- The literal at the front of a text is read, if what follows does not go on with it. -/
theorem IsLiteral.readFirst_eq (h : IsLiteral cs x) (hr : Delimits r) : readFirst (cs ++ r) = (x, r) := by
  cases h with
  | null => exact readFirst_word (List.all_eq_true.mp (by decide)) hr
  | yes => exact readFirst_word (List.all_eq_true.mp (by decide)) hr
  | no => exact readFirst_word (List.all_eq_true.mp (by decide)) hr
  | unsigned numeral =>
      have hne : cs ≠ [] := by
        cases numeral with
        | digits ne => exact ne
      obtain ⟨c, w, rfl⟩ := List.exists_cons_of_ne_nil hne
      rw [readFirst_word numeral.isAlphanum hr, numeral.wordValue_eq]
  | positive numeral =>
      rw [List.cons_append, readFirst, if_neg (by decide), if_pos rfl, takeWhile_word numeral.isAlphanum hr,
        dropWhile_word numeral.isAlphanum hr, numeral.ofDigitChars_eq]
  | negative numeral =>
      rw [List.cons_append, readFirst, if_neg (by decide), if_neg (by decide), if_pos rfl,
        takeWhile_word numeral.isAlphanum hr, dropWhile_word numeral.isAlphanum hr, numeral.ofDigitChars_eq]
  | text inside =>
      have hquote : r.head? ≠ some '\'' := fun hc => (hr _ hc).2 rfl
      rw [List.cons_append, readFirst, if_pos rfl, readLiteral_rest_append inside.isLiteralRest hquote,
        List.dropLast_concat, inside.undouble_eq]

/-- So a text begins with one literal only. -/
theorem IsLiteral.unique (h : IsLiteral cs x) (h' : IsLiteral ds y) (hr : Delimits r) (hr' : Delimits r')
    (same : cs ++ r = ds ++ r') : x = y ∧ r = r' := by
  have hfirst := h.readFirst_eq hr
  rw [same, h'.readFirst_eq hr'] at hfirst
  exact ⟨(congrArg Prod.fst hfirst).symm, (congrArg Prod.snd hfirst).symm⟩

/-! ### Lists -/

theorem code_of_isAlphanum {c : Char} (h : c.isAlphanum = true) :
    (48 ≤ c.toNat ∧ c.toNat ≤ 57) ∨ (65 ≤ c.toNat ∧ c.toNat ≤ 90) ∨ (97 ≤ c.toNat ∧ c.toNat ≤ 122) := by
  simp only [Char.isAlphanum, Char.isAlpha, Char.isUpper, Char.isLower, Char.isDigit, Bool.or_eq_true,
    Bool.and_eq_true, decide_eq_true_eq, ge_iff_le, UInt32.le_iff_toNat_le] at h
  change ((65 ≤ c.toNat ∧ c.toNat ≤ 90) ∨ (97 ≤ c.toNat ∧ c.toNat ≤ 122)) ∨ (48 ≤ c.toNat ∧ c.toNat ≤ 57) at h
  omega

theorem isAlphanum_of_isBlank {c : Char} (h : isBlank c = true) : c.isAlphanum = false := by
  rw [Bool.eq_false_iff]
  intro halphanum
  have hcode := code_of_isAlphanum halphanum
  have hval : c.val.toNat = c.toNat := rfl
  simp only [isBlank, Bool.or_eq_true, Bool.and_eq_true, decide_eq_true_eq, beq_iff_eq,
    UInt32.le_iff_toNat_le, ← UInt32.toNat_inj, UInt32.toNat_ofNat, hval] at h
  omega

/-- Blanks and a comma do not go on with a literal. -/
theorem delimits_comma {before : List Char} (blank : ∀ c ∈ before, isBlank c = true) (r : List Char) :
    Delimits (before ++ ',' :: r) := by
  intro c hc
  cases before with
  | nil =>
      cases hc
      decide
  | cons b before =>
      cases hc
      refine ⟨isAlphanum_of_isBlank (blank c (by simp)), ?_⟩
      rintro rfl
      exact absurd (blank '\'' (by simp)) (by decide)

/-- A literal begins with no blank and no parenthesis. -/
theorem IsLiteral.exists_cons (h : IsLiteral cs x) : ∃ c w, cs = c :: w ∧ isBlank c = false ∧ c ≠ '(' := by
  have word : ∀ {c : Char} {w : List Char}, c.isAlphanum = true → ∃ c' w', c :: w = c' :: w' ∧
      isBlank c' = false ∧ c' ≠ '(' := by
    intro c w hc
    refine ⟨c, w, rfl, ?_, ?_⟩
    · rw [Bool.eq_false_iff]
      intro hblank
      rw [isAlphanum_of_isBlank hblank] at hc
      cases hc
    · rintro rfl
      exact absurd hc (by decide)
  cases h with
  | null => exact word (by decide)
  | yes => exact word (by decide)
  | no => exact word (by decide)
  | unsigned numeral =>
      cases numeral with
      | digits ne all =>
          obtain ⟨c, w, rfl⟩ := List.exists_cons_of_ne_nil ne
          exact word (isAlphanum_of_isDigit (all c (by simp)))
  | positive => exact ⟨_, _, rfl, by decide, by decide⟩
  | negative => exact ⟨_, _, rfl, by decide, by decide⟩
  | text => exact ⟨_, _, rfl, by decide, by decide⟩

theorem dropWhile_isBlank_append {before : List Char} (blank : ∀ c ∈ before, isBlank c = true) {c : Char}
    (hc : isBlank c = false) (r : List Char) : (before ++ c :: r).dropWhile isBlank = c :: r := by
  rw [List.dropWhile_append_of_pos blank, List.dropWhile_cons_of_neg (by simp [hc])]

theorem AreLiterals.exists_cons (h : AreLiterals cs xs) : ∃ c w, cs = c :: w ∧ isBlank c = false := by
  cases h with
  | last literal =>
      obtain ⟨c, w, hcs, hblank, -⟩ := literal.exists_cons
      exact ⟨c, w, hcs, hblank⟩
  | next literal =>
      obtain ⟨c, w, rfl, hblank, -⟩ := literal.exists_cons
      exact ⟨c, _, rfl, hblank⟩

/-- Blanks before literals are told from them. -/
theorem AreLiterals.eq_of_append_eq {behind behind' : List Char} (h : AreLiterals cs xs) (h' : AreLiterals ds ys)
    (blank : ∀ c ∈ behind, isBlank c = true) (blank' : ∀ c ∈ behind', isBlank c = true)
    (same : behind ++ cs = behind' ++ ds) : cs = ds := by
  obtain ⟨c, w, rfl, hc⟩ := h.exists_cons
  obtain ⟨d, w', rfl, hd⟩ := h'.exists_cons
  rw [← dropWhile_isBlank_append blank hc, same, dropWhile_isBlank_append blank' hd]

/-- A text is cut into literals in one way only. -/
theorem AreLiterals.unique (h : AreLiterals cs xs) (h' : AreLiterals cs ys) : xs = ys := by
  -- the first literals agree, so what is behind them agrees, and both go on with a comma or neither does
  induction h generalizing ys with
  | @last cs x literal =>
      generalize hds : cs = ds at h'
      cases h' with
      | last literal' =>
          obtain ⟨rfl, -⟩ := literal.unique literal' delimits_nil delimits_nil (by rw [hds])
          rfl
      | next literal' blankBefore blankBehind rest =>
          obtain ⟨-, hnil⟩ := literal.unique literal' delimits_nil (delimits_comma blankBefore _)
            (by rw [List.append_nil, hds])
          simp at hnil
  | @next cs before behind rest x xs literal blankBefore blankBehind literals ih =>
      generalize hds : cs ++ (before ++ ',' :: (behind ++ rest)) = ds at h'
      cases h' with
      | last literal' =>
          obtain ⟨-, hnil⟩ := literal.unique literal' (delimits_comma blankBefore _) delimits_nil
            (by rw [List.append_nil, hds])
          simp at hnil
      | next literal' blankBefore' blankBehind' literals' =>
          obtain ⟨rfl, hcomma⟩ := literal.unique literal' (delimits_comma blankBefore _)
            (delimits_comma blankBefore' _) hds
          have hrest := congrArg (List.dropWhile isBlank) hcomma
          rw [dropWhile_isBlank_append blankBefore (by decide),
            dropWhile_isBlank_append blankBefore' (by decide)] at hrest
          have hsame := literals.eq_of_append_eq literals' blankBehind blankBehind' (List.cons.inj hrest).2
          rw [ih (hsame ▸ literals')]

/-- **The grammar of constants is unambiguous.** -/
theorem IsConstant.unique {c c' : Constant} (h : IsConstant cs c) (h' : IsConstant cs c') : c = c' := by
  have apart : ∀ {cs ds : List Char} {x : Scalar}, IsLiteral cs x → cs ≠ '(' :: ds := by
    rintro cs ds x literal rfl
    obtain ⟨c, w, hcs, -, hc⟩ := literal.exists_cons
    exact hc (List.cons.inj hcs).1.symm
  cases h with
  | single literal =>
      generalize hds : cs = ds at h'
      cases h' with
      | single literal' =>
          obtain ⟨rfl, -⟩ := literal.unique literal' delimits_nil delimits_nil (by rw [hds])
          rfl
      | list => exact absurd hds (apart literal)
  | @list cs xs literals =>
      generalize hds : '(' :: (cs ++ [')']) = ds at h'
      cases h' with
      | single literal' => exact absurd hds.symm (apart literal')
      | list literals' =>
          have hsame := List.append_cancel_right (List.cons.inj hds).2
          rw [literals.unique (hsame ▸ literals')]

/-! ### What is printed -/

/-- A single value. -/
def Scalar.value : Scalar → Value
  | null => .null
  | bool b => .bool b
  | int n => .int n
  | text s => .str s

/-- Is it no integer of more digits than are converted to text? -/
def Scalar.IsShort : Scalar → Prop
  | int n => (Nat.toDigits 10 n.natAbs).length ≤ Number.digitLimit
  | _ => True

/-- Values that constants stand for. A list and a tuple of the same values are not told apart. -/
inductive Constant.StandsFor : Constant → Value → Prop
  | single {x : Scalar} (short : x.IsShort) : StandsFor (.single x) x.value
  | list {xs : List Scalar} (ne : xs ≠ []) (short : ∀ x ∈ xs, x.IsShort) :
      StandsFor (.list xs) (.list (xs.map Scalar.value))
  | tuple {xs : List Scalar} (ne : xs ≠ []) (short : ∀ x ∈ xs, x.IsShort) :
      StandsFor (.list xs) (.tuple (xs.map Scalar.value))

theorem isInside_escapeQuotes (s : List Char) : IsInside (escapeQuotes s) s := by
  induction s with
  | nil => exact .nil
  | cons c s ih =>
      by_cases hc : c = '\''
      · subst hc
        rw [escapeQuotes_quote]
        exact .quote ih
      · rw [escapeQuotes_cons hc]
        exact .char hc ih

theorem isNumeral_toDigits (n : Nat) : IsNumeral (Nat.toDigits 10 n) n := by
  have h : IsNumeral (Nat.toDigits 10 n) (Nat.ofDigitChars 10 (Nat.toDigits 10 n) 0) :=
    .digits Nat.toDigits_ne_nil fun d hd => Nat.isDigit_of_mem_toDigits (by decide) (by decide) hd
  rwa [Nat.ofDigitChars_ten_toDigits] at h

/-- A single value is printed as its literal. -/
theorem Scalar.exists_literal (short : x.IsShort) :
    ∃ text, Sql.literal x.value = .ok text ∧ IsLiteral text.toList x := by
  cases x with
  | null => exact ⟨"NULL", rfl, .null⟩
  | bool b =>
      cases b with
      | true => exact ⟨"TRUE", rfl, .yes⟩
      | false => exact ⟨"FALSE", rfl, .no⟩
  | text s =>
      refine ⟨quote s, rfl, ?_⟩
      have h := IsLiteral.text (isInside_escapeQuotes s.toList)
      rw [String.ofList_toList] at h
      rwa [quote, String.toList_ofList]
  | int n =>
      have hprinted : Sql.literal (Scalar.int n).value =
          .ok (String.ofList (if n < 0 then '-' :: Nat.toDigits 10 n.natAbs else Nat.toDigits 10 n.natAbs)) :=
        if_neg (Nat.not_lt.mpr short)
      refine ⟨_, hprinted, ?_⟩
      rw [String.toList_ofList]
      have numeral := isNumeral_toDigits n.natAbs
      split
      case isTrue negative =>
          have h := IsLiteral.negative numeral
          rwa [show -(n.natAbs : Int) = n by omega] at h
      case isFalse positive =>
          have h := IsLiteral.unsigned numeral
          rwa [show (n.natAbs : Int) = n by omega] at h

/-- Several values are printed as their literals, with commas between them. -/
theorem exists_literals (ne : xs ≠ []) (short : ∀ x ∈ xs, x.IsShort) :
    ∃ ts, (xs.map Scalar.value).mapM Sql.literal = .ok ts ∧ ts ≠ [] ∧
      AreLiterals (String.intercalate ", " ts).toList xs := by
  induction xs with
  | nil => exact absurd rfl ne
  | cons x xs ih =>
      obtain ⟨t, ht, literal⟩ := Scalar.exists_literal (short x (by simp))
      cases xs with
      | nil =>
          refine ⟨[t], ?_, by simp, ?_⟩
          · rw [List.map_cons, List.map_nil, List.mapM_cons, List.mapM_nil, ht]
            rfl
          · rw [String.intercalate_singleton]
            exact .last literal
      | cons y ys =>
          obtain ⟨ts, hts, hne, literals⟩ := ih (by simp) fun z hz => short z (by simp [hz])
          refine ⟨t :: ts, ?_, by simp, ?_⟩
          · rw [List.map_cons, List.mapM_cons, ht, hts]
            rfl
          · rw [String.intercalate_cons_of_ne_nil hne, String.toList_append, String.toList_append, List.append_assoc]
            have blank : ∀ c ∈ [' '], isBlank c = true := List.all_eq_true.mp rfl
            exact .next literal (List.forall_mem_nil _) blank literals

theorem literalList_values (ne : xs ≠ []) (short : ∀ x ∈ xs, x.IsShort) :
    ∃ text, literalList (xs.map Scalar.value) = .ok text ∧ IsConstant text.toList (.list xs) := by
  obtain ⟨ts, hts, -, literals⟩ := exists_literals ne short
  have hsome : (xs.map Scalar.value).isEmpty = false := by simpa using ne
  refine ⟨"(" ++ String.intercalate ", " ts ++ ")", ?_, ?_⟩
  · unfold literalList
    rw [hsome, hts]
    rfl
  · rw [String.toList_append, String.toList_append]
    exact .list literals

/-- What is printed for a value is a constant that stands for it. -/
theorem Constant.StandsFor.exists_text {c : Constant} {v : Value} (h : c.StandsFor v) :
    ∃ text, finalText v = .ok text ∧ IsConstant text.toList c := by
  cases h with
  | @single x short =>
      obtain ⟨text, htext, literal⟩ := Scalar.exists_literal short
      have hprinted : finalText x.value = Sql.literal x.value := by cases x <;> rfl
      exact ⟨text, hprinted.trans htext, .single literal⟩
  | list ne short => exact literalList_values ne short
  | tuple ne short => exact literalList_values ne short

/-- **What is printed reads back.** For a null, a truth value, an integer that has a text, a text, or a list or
tuple of some of these, the text that is printed is a constant, and it is a constant in one way only: the one
that stands for the value. So values that are printed alike are the same, but that a list may be a tuple. -/
theorem printed_reads_back :
    (∀ (c : Constant) (v : Value), c.StandsFor v → ∃ text, finalText v = .ok text ∧
      ∀ c' : Constant, IsConstant text.toList c' ↔ c' = c) ∧
    ∀ (c c' : Constant) (v v' : Value), c.StandsFor v → c'.StandsFor v' → finalText v = finalText v' → c = c' := by
  constructor
  · intro c v h
    obtain ⟨text, htext, constant⟩ := h.exists_text
    refine ⟨text, htext, fun c' => ⟨fun constant' => constant'.unique constant, ?_⟩⟩
    rintro rfl
    exact constant
  · intro c c' v v' h h' same
    obtain ⟨text, htext, constant⟩ := h.exists_text
    obtain ⟨text', htext', constant'⟩ := h'.exists_text
    rw [htext, htext'] at same
    cases same
    exact constant.unique constant'

/-- A text that looks like the end of its literal, of the list, and of the statement stays one element. -/
theorem printed_reads_back_of_quotes :
    finalText (.tuple [.str "a', NULL) --", .int (-5), .null]) = .ok "('a'', NULL) --', -5, NULL)" ∧
      ∀ c : Constant, IsConstant "('a'', NULL) --', -5, NULL)".toList c ↔
        c = .list [.text "a', NULL) --", .int (-5), .null] := by
  have hprinted : finalText (.tuple [.str "a', NULL) --", .int (-5), .null]) =
      .ok "('a'', NULL) --', -5, NULL)" := by cbv
  have stands : (Constant.list [.text "a', NULL) --", .int (-5), .null]).StandsFor
      (.tuple [.str "a', NULL) --", .int (-5), .null]) := by
    refine .tuple (by simp) ?_
    have short : (Nat.toDigits 10 5).length ≤ Number.digitLimit := by decide
    simpa [Scalar.IsShort] using short
  obtain ⟨text, htext, hread⟩ := printed_reads_back.1 _ _ stands
  cases hprinted.symm.trans htext
  exact ⟨hprinted, hread⟩

end SqlMapper.Sql
