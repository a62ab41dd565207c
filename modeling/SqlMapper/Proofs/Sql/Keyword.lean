import Mathlib
import SqlMapper.Sql.Count
/-!
# SqlMapper.Proofs.Sql.Keyword

Where the count statement is cut, in terms of positions. A pattern matches at a position (`matchesAt`) if it
matches what stands there and no word goes on there; a search finds the first of these positions
(`splitAtFirst?_eq`). So the select list that is replaced runs from the first `select` up to the first `from`
behind it (`replaceSelectList_eq`), and the ordering begins at the first `order by` (`dropOrdering_eq`).
-/

namespace SqlMapper.Sql

open SqlMapper.Text

/-! ### Matches -/

/-- Does a word character stand before a position? `inWord` tells whether one stands before the text. -/
def wordBefore (inWord : Bool) (cs : List Char) : Nat → Bool
  | 0 => inWord
  | n + 1 => cs[n]?.any isWord

/-- Does a pattern match at a position, at the beginning of a word? -/
def matchesAt (p : Pattern) (inWord : Bool) (cs : List Char) (n : Nat) : Bool :=
  !wordBefore inWord cs n && (p (cs.drop n)).isSome

/-- The first position where a pattern matches. -/
def firstAt? (p : Pattern) (inWord : Bool) (cs : List Char) : Option Nat :=
  (List.range cs.length).find? (matchesAt p inWord cs)

variable {p : Pattern} {inWord : Bool} {c : Char} {cs rest : List Char} {letters : String} {i j n : Nat}

theorem matchesAt_succ (p : Pattern) (inWord : Bool) (c : Char) (cs : List Char) (n : Nat) :
    matchesAt p inWord (c :: cs) (n + 1) = matchesAt p (isWord c) cs n := by
  cases n <;> rfl

theorem firstAt?_eq_some_iff :
    firstAt? p inWord cs = some n ↔
      matchesAt p inWord cs n = true ∧ n < cs.length ∧ ∀ m < n, matchesAt p inWord cs m = false := by
  simp [firstAt?]

theorem firstAt?_cons (p : Pattern) (inWord : Bool) (c : Char) (cs : List Char) :
    firstAt? p inWord (c :: cs) =
      if matchesAt p inWord (c :: cs) 0 then some 0 else (firstAt? p (isWord c) cs).map (· + 1) := by
  have hshift : (matchesAt p inWord (c :: cs)) ∘ Nat.succ = matchesAt p (isWord c) cs :=
    funext fun n => matchesAt_succ p inWord c cs n
  unfold firstAt?
  rw [List.length_cons, List.range_succ_eq_map, List.find?_cons, List.find?_map, hshift]
  cases matchesAt p inWord (c :: cs) 0 <;> rfl

/-- A search finds the first position where the pattern matches. -/
theorem splitAtFirst?_eq (p : Pattern) (inWord : Bool) (cs : List Char) :
    splitAtFirst? p inWord cs =
      (firstAt? p inWord cs).map fun n => (cs.take n, (p (cs.drop n)).getD []) := by
  -- the search forgets all that it has passed but whether it stands in a word
  induction cs generalizing inWord with
  | nil => rfl
  | cons c cs ih =>
      rw [splitAtFirst?, ih, firstAt?_cons]
      cases inWord with
      | true => simp [matchesAt, wordBefore, Function.comp_def]
      | false =>
          cases hp : p (c :: cs) with
          | some rest => simp [matchesAt, wordBefore, hp]
          | none => simp [matchesAt, wordBefore, hp, Function.comp_def]

/-! ### Keywords -/

/-- The letters of a keyword, in either case, are word characters. -/
theorem isWord_of_isLetter {letter : Char} (hletter : letter.isAlpha = true) (h : isLetter letter c = true) :
    isWord c = true := by
  simp only [isLetter, Bool.or_eq_true, Bool.and_eq_true, beq_iff_eq] at h
  rcases h with h | ⟨-, rfl⟩
  · apply isWord_of_isAlphanum
    by_cases hupper : c.isUpper = true
    · simp [Char.isAlphanum, Char.isAlpha, hupper]
    · have hlower : c.toLower = c := dif_neg fun hrange => hupper (by simpa [Char.isUpper] using hrange)
      rw [← hlower, h]
      simp [Char.isAlphanum, hletter]
  · decide

theorem dropLetters?_eq_some {ls : List Char} (h : dropLetters? ls cs = some rest) :
    ∃ word, cs = word ++ rest ∧ List.Forall₂ (fun l c => isLetter l c = true) ls word := by
  fun_induction dropLetters? ls cs with
  | case1 cs => exact ⟨[], Option.some.inj h, .nil⟩
  | case2 => cases h
  | case3 l ls c cs hl ih =>
      obtain ⟨word, rfl, hword⟩ := ih h
      exact ⟨c :: word, rfl, .cons hl hword⟩
  | case4 => cases h

/-- A keyword is a word of its length, and no word goes on behind it. -/
theorem keyword_eq_some (h : keyword letters cs = some rest) :
    rest = cs.drop letters.length ∧ endsWord rest = true ∧
      dropLetters? letters.toList cs = some rest := by
  obtain ⟨hdrop, hends⟩ := Option.filter_eq_some_iff.mp h
  obtain ⟨word, rfl, hword⟩ := dropLetters?_eq_some hdrop
  have hlength : letters.length = word.length := by
    rw [← hword.length_eq, String.length_toList]
  exact ⟨by rw [hlength, List.drop_left], hends, hdrop⟩

/-- A keyword as it stands at a position: its letters, and what follows them. -/
theorem keyword_of_matchesAt (h : matchesAt (keyword letters) inWord cs i = true) :
    ∃ word, cs.drop i = word ++ cs.drop (i + letters.length) ∧ word.length = letters.length ∧
      List.Forall₂ (fun l c => isLetter l c = true) letters.toList word ∧
      keyword letters (cs.drop i) = some (cs.drop (i + letters.length)) ∧
      endsWord (cs.drop (i + letters.length)) = true := by
  obtain ⟨-, hsome⟩ := Bool.and_eq_true_iff.mp h
  obtain ⟨rest, hrest⟩ := Option.isSome_iff_exists.mp hsome
  obtain ⟨hdrop, hends, hletters⟩ := keyword_eq_some hrest
  rw [List.drop_drop] at hdrop
  subst hdrop
  obtain ⟨word, hword, hforall⟩ := dropLetters?_eq_some hletters
  exact ⟨word, hword, by rw [← hforall.length_eq, String.length_toList], hforall, hrest, hends⟩

theorem le_length_of_matchesAt (hne : 0 < letters.length)
    (h : matchesAt (keyword letters) inWord cs i = true) : i + letters.length ≤ cs.length := by
  obtain ⟨word, hword, hlength, -⟩ := keyword_of_matchesAt h
  have hdrop := congrArg List.length hword
  simp only [List.length_drop, List.length_append] at hdrop
  omega

/-- A keyword of letters. -/
def IsKeyword (letters : String) : Prop := 0 < letters.length ∧ ∀ l ∈ letters.toList, l.isAlpha = true

theorem isKeyword_select : IsKeyword "select" := by
  refine ⟨by decide, ?_⟩
  simp

theorem isKeyword_from : IsKeyword "from" := by
  refine ⟨by decide, ?_⟩
  simp

theorem isKeyword_order : IsKeyword "order" := by
  refine ⟨by decide, ?_⟩
  simp

theorem isKeyword_by : IsKeyword "by" := by
  refine ⟨by decide, ?_⟩
  simp

/-- Inside a keyword, and right behind it, no word begins. -/
theorem wordBefore_of_keyword (hkey : IsKeyword letters)
    (h : matchesAt (keyword letters) false cs i = true) (hlt : i < n) (hle : n ≤ i + letters.length) :
    wordBefore false cs n = true := by
  obtain ⟨word, hword, hlength, hletters, -⟩ := keyword_of_matchesAt h
  obtain ⟨k, rfl⟩ : ∃ k, n = i + k + 1 := ⟨n - i - 1, by omega⟩
  have hk : k < word.length := by omega
  have hget : cs[i + k]? = some word[k] := by
    rw [← List.getElem?_drop, hword, List.getElem?_append_left hk, List.getElem?_eq_getElem hk]
  have hletter := hletters.get (i := k) (by rw [String.length_toList]; omega) hk
  simp only [wordBefore, hget, Option.any_some]
  exact isWord_of_isLetter (hkey.2 _ (List.getElem_mem _)) hletter

/-- A keyword begins with a word character. -/
theorem keyword_eq_none_of_endsWord (hkey : IsKeyword letters) (h : endsWord cs = true) :
    keyword letters cs = none := by
  cases hkeyword : keyword letters cs with
  | none => rfl
  | some rest =>
      obtain ⟨word, rfl, hletters⟩ := dropLetters?_eq_some (keyword_eq_some hkeyword).2.2
      obtain ⟨hne, halpha⟩ := hkey
      rw [← String.length_toList] at hne
      generalize letters.toList = ls at hne halpha hletters
      cases hletters with
      | nil => exact absurd hne (Nat.lt_irrefl 0)
      | cons hletter _ =>
          have hhead := isWord_of_isLetter (halpha _ List.mem_cons_self) hletter
          simp [endsWord, hhead] at h

theorem keyword_nil (hkey : IsKeyword letters) : keyword letters [] = none :=
  keyword_eq_none_of_endsWord hkey rfl

/-- What the words `order by` are. -/
theorem orderBy_eq_some_iff :
    orderBy cs = some rest ↔ ∃ between, dropLetters? "order".toList cs = some between ∧
      between.head?.any isBlank = true ∧ keyword "by" (dropBlanks between) = some rest := by
  unfold orderBy
  rw [Option.bind_eq_bind, Option.bind_eq_some_iff]
  refine exists_congr fun between => and_congr_right fun _ => ?_
  cases between.head?.any isBlank <;> simp

theorem orderBy_nil : orderBy [] = none := rfl

/-- Behind a keyword another one is found exactly where it is found in the whole text. -/
theorem matchesAt_drop {others : String} (hkey : IsKeyword letters) (hothers : IsKeyword others)
    (h : matchesAt (keyword letters) false cs i = true) (n : Nat) :
    matchesAt (keyword others) false (cs.drop (i + letters.length)) n =
      matchesAt (keyword others) false cs (i + letters.length + n) := by
  cases n with
  | zero =>
      obtain ⟨-, -, -, -, -, hends⟩ := keyword_of_matchesAt h
      have hnone := keyword_eq_none_of_endsWord hothers hends
      have hbefore := wordBefore_of_keyword hkey h (n := i + letters.length) (by have := hkey.1; omega) le_rfl
      simp [matchesAt, hnone, hbefore]
  | succ n => simp [matchesAt, wordBefore, ← Nat.add_assoc]

/-! ### Where the count statement is cut -/

/-- The first position of a pattern behind a position. -/
def firstBehind? (p : Pattern) (i : Nat) (cs : List Char) : Option Nat :=
  (List.range cs.length).find? fun n => decide (i < n) && matchesAt p false cs n

/-- The keywords between which the select list is replaced: the first `select`, and the first `from` behind it. -/
def listCut? (cs : List Char) : Option (Nat × Nat) :=
  (firstAt? (keyword "select") false cs).bind fun i =>
    (firstBehind? (keyword "from") i cs).map fun j => (i, j)

/-- A text with its select list, from one keyword up to the other, replaced. -/
def withCount (cs : List Char) (i j : Nat) : List Char := cs.take i ++ countSelect ++ cs.drop (j + 4)

/-- The search for a second keyword goes on behind the first. -/
theorem firstBehind?_eq {others : String} (hkey : IsKeyword letters) (hothers : IsKeyword others)
    (h : matchesAt (keyword letters) false cs i = true) :
    firstBehind? (keyword others) i cs =
      (firstAt? (keyword others) false (cs.drop (i + letters.length))).map (i + letters.length + ·) := by
  have hle := le_length_of_matchesAt hkey.1 h
  obtain ⟨m, hm⟩ := Nat.exists_eq_add_of_le hle
  -- up to the end of the first keyword there is no other behind its beginning
  have hnone : (List.range (i + letters.length)).find?
      (fun n => decide (i < n) && matchesAt (keyword others) false cs n) = none := by
    rw [List.find?_eq_none]
    intro n hn
    rw [List.mem_range] at hn
    by_cases hlt : i < n
    · simp [matchesAt, wordBefore_of_keyword hkey h hlt hn.le]
    · simp [hlt]
  have hshift : (fun n => decide (i < n) && matchesAt (keyword others) false cs n) ∘
      (i + letters.length + ·) = matchesAt (keyword others) false (cs.drop (i + letters.length)) := by
    funext n
    have hlt : i < i + letters.length + n := by have := hkey.1; omega
    simp [hlt, matchesAt_drop hkey hothers h]
  rw [firstBehind?, firstAt?, hm, List.range_add, List.find?_append, hnone, List.find?_map, hshift,
    Option.none_or, List.length_drop, hm, Nat.add_sub_cancel_left]

/-- The select list is replaced between the two keywords, if there are two. -/
theorem replaceSelectList_eq (cs : List Char) :
    replaceSelectList cs =
      match listCut? cs with
      | none => cs
      | some (i, j) => withCount cs i j := by
  unfold replaceSelectList listCut?
  rw [splitAtFirst?_eq]
  cases hi : firstAt? (keyword "select") false cs with
  | none => rfl
  | some i =>
      have hmatch := (firstAt?_eq_some_iff.mp hi).1
      obtain ⟨-, -, -, -, hrest, -⟩ := keyword_of_matchesAt hmatch
      rw [Option.bind_some, firstBehind?_eq isKeyword_select isKeyword_from hmatch]
      simp only [Option.map_some, hrest, Option.getD_some, splitAtFirst?_eq]
      generalize hlist : cs.drop (i + "select".length) = list
      cases hj : firstAt? (keyword "from") false list with
      | none => rfl
      | some j =>
          obtain ⟨-, -, -, -, htail, -⟩ := keyword_of_matchesAt (firstAt?_eq_some_iff.mp hj).1
          simp only [Option.map_some, htail, Option.getD_some, withCount]
          rw [← hlist, List.drop_drop]
          rfl

/-- The ordering is cut off at the first place that looks like one, unless a placeholder stands behind. -/
theorem dropOrdering_eq (cs : List Char) :
    dropOrdering cs =
      match firstAt? orderBy false cs with
      | none => cs
      | some k => if hasPlaceholder false (cs.drop k) then cs else cs.take k := by
  unfold dropOrdering
  rw [splitAtFirst?_eq]
  cases hk : firstAt? orderBy false cs with
  | none => rfl
  | some k =>
      have hlt := (firstAt?_eq_some_iff.mp hk).2.1
      simp only [Option.map_some, List.length_take, Nat.min_eq_left hlt.le]

/-- **The count statement**: the text with its select list replaced, cut off where its ordering begins. -/
theorem deriveCountChars_of_listCut? (h : listCut? cs = some (i, j)) :
    deriveCountChars cs =
      match firstAt? orderBy false (withCount cs i j) with
      | none => withCount cs i j
      | some k =>
        if hasPlaceholder false ((withCount cs i j).drop k) then withCount cs i j
        else (withCount cs i j).take k := by
  rw [deriveCountChars, replaceSelectList_eq, h, dropOrdering_eq]

end SqlMapper.Sql
