import Mathlib
import SqlMapper.Proofs.Sql.Keyword
/-!
# SqlMapper.Proofs.Sql.LiveBinds

What the count statement keeps (`count_keeps_live_binds`). A count statement is its own count statement, and every
placeholder behind the first `from` is still there, so that no value is left without its place.

The search for the ordering sees a text that the replacement of the select list has just written, and the second
search for the select list sees one that has been cut off. Both come down to where words begin: what is cut off begins
with a word, so a keyword that is found in what is left stood there before (`matchesAt_of_take`), and so does every
placeholder (`placeholderAt?_take`), unless it is the colon right before the cut. What has been written is found again
as it stands (`CountText.replaceSelectList_eq`).
-/

namespace SqlMapper.Sql

open SqlMapper.Text

/-! ### Placeholders -/

/-- Does a colon or a word character stand before a position, so that a colon there is no placeholder? `blocked` tells
whether one stands before the text. -/
def blockedBefore (blocked : Bool) (cs : List Char) : Nat → Bool
  | 0 => blocked
  | n + 1 => cs[n]?.any fun c => c == ':' || isWord c

/-- The placeholder that a text begins with: a question mark, or a colon and a name. -/
def frontPlaceholder? (blocked : Bool) : List Char → Option (List Char)
  | [] => none
  | c :: cs =>
    if c = '?' then some ['?']
    else if c = ':' ∧ blocked = false ∧ cs.head?.any isBindStart = true then some (':' :: cs.takeWhile isWord)
    else none

/-- The placeholder that begins at a position. -/
def placeholderAt? (blocked : Bool) (cs : List Char) (n : Nat) : Option (List Char) :=
  frontPlaceholder? (blockedBefore blocked cs n) (cs.drop n)

/-- The placeholders that begin at a position or behind it, in order. -/
def placeholdersFrom (n : Nat) (cs : List Char) : List (List Char) :=
  (List.range' n (cs.length - n)).filterMap (placeholderAt? false cs)

variable {p : Pattern} {blocked : Bool} {c : Char} {a b cs rest : List Char} {letters : String} {i j k m n : Nat}

theorem placeholderAt?_succ (blocked : Bool) (c : Char) (cs : List Char) (n : Nat) :
    placeholderAt? blocked (c :: cs) (n + 1) = placeholderAt? (c == ':' || isWord c) cs n := by
  cases n <;> rfl

theorem hasPlaceholder_eq_false_iff :
    hasPlaceholder blocked cs = false ↔ ∀ n, placeholderAt? blocked cs n = none := by
  induction cs generalizing blocked with
  | nil => simp [hasPlaceholder, placeholderAt?, frontPlaceholder?]
  | cons c cs ih =>
      rw [← Nat.and_forall_add_one]
      simp only [placeholderAt?_succ, ← ih, hasPlaceholder, Bool.or_eq_false_iff]
      refine and_congr_left fun _ => ?_
      have hfront : placeholderAt? blocked (c :: cs) 0 = frontPlaceholder? blocked (c :: cs) := rfl
      rw [hfront, frontPlaceholder?]
      by_cases hmark : c = '?'
      · simp [hmark]
      · cases blocked <;> simp [hmark]

/-- Whatever stands before it, a text begins with no other placeholder. -/
theorem frontPlaceholder?_eq_none (h : frontPlaceholder? false cs = none) (blocked : Bool) :
    frontPlaceholder? blocked cs = none := by
  cases blocked with
  | false => exact h
  | true =>
      cases cs with
      | nil => rfl
      | cons c cs =>
          by_cases hmark : c = '?'
          · simp [frontPlaceholder?, hmark] at h
          · simp [frontPlaceholder?, hmark]

theorem placeholderAt?_of_not_hasPlaceholder (h : hasPlaceholder false (cs.drop k) = false) (hk : k ≤ n) :
    placeholderAt? false cs n = none := by
  obtain ⟨m, rfl⟩ := Nat.exists_eq_add_of_le hk
  have hm := hasPlaceholder_eq_false_iff.mp h m
  rw [placeholderAt?, List.drop_drop] at hm
  cases m with
  | zero => exact frontPlaceholder?_eq_none hm _
  | succ m =>
      have hbefore : blockedBefore false (cs.drop k) (m + 1) = blockedBefore false cs (k + (m + 1)) := by
        simp [blockedBefore]
      rwa [hbefore] at hm

/-! ### Texts that are cut off where a word begins -/

/-- Does a text end in no word, so that one may begin right behind it? -/
def EndsOutsideWord (cs : List Char) : Prop := ∀ c, cs.getLast? = some c → isWord c = false

theorem wordBefore_of_matchesAt (h : matchesAt p false cs n = true) : wordBefore false cs n = false := by
  simpa using (Bool.and_eq_true_iff.mp h).1

theorem endsOutsideWord_take (hk : k ≤ cs.length) (h : wordBefore false cs k = false) :
    EndsOutsideWord (cs.take k) := by
  intro c hc
  cases k with
  | zero => simp at hc
  | succ k =>
      have hlast : cs[k]? = some c := by
        simpa [List.getLast?_take, List.getElem?_eq_getElem (show k < cs.length by omega)] using hc
      simpa [wordBefore, hlast] using h

theorem EndsOutsideWord.of_append (h : EndsOutsideWord (a ++ b)) (hb : b ≠ []) : EndsOutsideWord b := by
  intro c hc
  exact h c (by rw [List.getLast?_append_of_ne_nil a hb, hc])

theorem EndsOutsideWord.tail (h : EndsOutsideWord (c :: cs)) (hc : isWord c = true) :
    cs ≠ [] ∧ EndsOutsideWord cs := by
  have hne : cs ≠ [] := by
    rintro rfl
    rw [h c rfl] at hc
    cases hc
  exact ⟨hne, h.of_append (a := [c]) hne⟩

theorem wordBefore_take (h : m ≤ k) : wordBefore false (cs.take k) m = wordBefore false cs m := by
  cases m with
  | zero => rfl
  | succ m => simp [wordBefore, show m < k by omega]

theorem endsWord_append (ha : a ≠ []) : endsWord (a ++ b) = endsWord a := by
  obtain ⟨c, a, rfl⟩ := List.exists_cons_of_ne_nil ha
  rfl

theorem endsWord_take (h : endsWord cs = true) (n : Nat) : endsWord (cs.take n) = true := by
  cases cs with
  | nil => simpa using h
  | cons c cs =>
      cases n with
      | zero => rfl
      | succ n => exact h

/-- A word that stands in a text which ends in none does not reach its end. -/
theorem dropLetters?_append {ls : List Char} (hls : ∀ l ∈ ls, l.isAlpha = true) (hne : a ≠ [])
    (ha : EndsOutsideWord a) (b : List Char) :
    dropLetters? ls (a ++ b) = (dropLetters? ls a).map (· ++ b) ∧
      ∀ r, dropLetters? ls a = some r → r ≠ [] ∧ EndsOutsideWord r := by
  induction ls generalizing a with
  | nil =>
      refine ⟨rfl, fun r hr => ?_⟩
      cases hr
      exact ⟨hne, ha⟩
  | cons l ls ih =>
      obtain ⟨c, a, rfl⟩ := List.exists_cons_of_ne_nil hne
      rw [List.cons_append, dropLetters?, dropLetters?]
      obtain ⟨hl, hls⟩ := List.forall_mem_cons.mp hls
      by_cases hc : isLetter l c = true
      · obtain ⟨hne, ha⟩ := ha.tail (isWord_of_isLetter hl hc)
        rw [if_pos hc, if_pos hc]
        exact ih hls hne ha
      · rw [if_neg hc, if_neg hc]
        exact ⟨rfl, fun r hr => nomatch hr⟩

theorem keyword_append (hkey : IsKeyword letters) (hne : a ≠ []) (ha : EndsOutsideWord a) (b : List Char) :
    keyword letters (a ++ b) = (keyword letters a).map (· ++ b) := by
  obtain ⟨happend, hrest⟩ := dropLetters?_append hkey.2 hne ha b
  unfold keyword
  rw [happend]
  cases hdrop : dropLetters? letters.toList a with
  | none => rfl
  | some r => simp [Option.filter, endsWord_append (hrest r hdrop).1, apply_ite]

/-- Is a pattern that matches at the front of a text which ends in no word found there as well when the text goes on? -/
def StaysFound (p : Pattern) : Prop :=
  ∀ {a : List Char} (b), a ≠ [] → EndsOutsideWord a → (p a).isSome = true → (p (a ++ b)).isSome = true

theorem staysFound_keyword (hkey : IsKeyword letters) : StaysFound (keyword letters) := by
  intro a b hne ha h
  rwa [keyword_append hkey hne ha, Option.isSome_map]

theorem staysFound_orderBy : StaysFound orderBy := by
  intro a b hne ha h
  obtain ⟨r, hr⟩ := Option.isSome_iff_exists.mp h
  obtain ⟨rest, hrest, hblank, hby⟩ := orderBy_eq_some_iff.mp hr
  obtain ⟨happend, hends⟩ := dropLetters?_append isKeyword_order.2 hne ha b
  obtain ⟨hrestne, hrestends⟩ := hends rest hrest
  -- the second word is not all that is left of the text either
  have hdrop : dropBlanks rest ≠ [] := by
    intro hnil
    rw [hnil, keyword_nil isKeyword_by] at hby
    cases hby
  have hdropends : EndsOutsideWord (dropBlanks rest) :=
    EndsOutsideWord.of_append (a := rest.takeWhile isBlank) (by rwa [dropBlanks, List.takeWhile_append_dropWhile]) hdrop
  refine Option.isSome_iff_exists.mpr ⟨r ++ b, orderBy_eq_some_iff.mpr ⟨rest ++ b, ?_, ?_, ?_⟩⟩
  · rw [happend, hrest, Option.map_some]
  · obtain ⟨d, rest, rfl⟩ := List.exists_cons_of_ne_nil hrestne
    exact hblank
  · have hskip : dropBlanks (rest ++ b) = dropBlanks rest ++ b := by
      unfold dropBlanks at hdrop ⊢
      rw [List.dropWhile_append, if_neg (by simpa using hdrop)]
    rw [hskip, keyword_append isKeyword_by hdrop hdropends, hby, Option.map_some]

/-- What is left of a text behind a position, where it is cut off before a word. -/
theorem drop_take_of_cut (hcut : wordBefore false cs k = false) (hk : k ≤ cs.length) (hn : n < k) :
    (cs.take k).drop n ≠ [] ∧ EndsOutsideWord ((cs.take k).drop n) ∧ (cs.take k).drop n ++ cs.drop k = cs.drop n := by
  have hne : (cs.take k).drop n ≠ [] := by
    rw [Ne, List.drop_eq_nil_iff, List.length_take]
    omega
  refine ⟨hne, ?_, ?_⟩
  · refine EndsOutsideWord.of_append (a := (cs.take k).take n) ?_ hne
    rw [List.take_append_drop]
    exact endsOutsideWord_take hk hcut
  · rw [← List.drop_append_of_le_length (by rw [List.length_take]; omega), List.take_append_drop]

theorem lt_length_of_matchesAt (hnil : p [] = none) (h : matchesAt p false cs n = true) : n < cs.length := by
  by_contra hge
  rw [matchesAt, List.drop_eq_nil_of_le (by omega), hnil, Option.isSome_none, Bool.and_false] at h
  cases h

/-- **What is found in a text that is cut off where a word begins stood there before.** -/
theorem matchesAt_of_take (hp : StaysFound p) (hnil : p [] = none) (hcut : wordBefore false cs k = false)
    (hk : k ≤ cs.length) (h : matchesAt p false (cs.take k) n = true) : n < k ∧ matchesAt p false cs n = true := by
  obtain ⟨hbefore, hsome⟩ := Bool.and_eq_true_iff.mp h
  have hlt : n < k := by
    have := lt_length_of_matchesAt hnil h
    rw [List.length_take] at this
    omega
  obtain ⟨hne, hends, hwhole⟩ := drop_take_of_cut hcut hk hlt
  refine ⟨hlt, Bool.and_eq_true_iff.mpr ⟨by rwa [wordBefore_take hlt.le] at hbefore, ?_⟩⟩
  rw [← hwhole]
  exact hp _ hne hends hsome

/-- For a keyword, the other way round as well. -/
theorem matchesAt_take (hkey : IsKeyword letters) (hcut : wordBefore false cs k = false) (hk : k ≤ cs.length)
    (hn : n < k) : matchesAt (keyword letters) false (cs.take k) n = matchesAt (keyword letters) false cs n := by
  obtain ⟨hne, hends, hwhole⟩ := drop_take_of_cut hcut hk hn
  rw [matchesAt, matchesAt, wordBefore_take hn.le, ← hwhole, keyword_append hkey hne hends, Option.isSome_map]

theorem firstAt?_take (hp : StaysFound p) (hnil : p [] = none) (h : firstAt? p false cs = some k) :
    firstAt? p false (cs.take k) = none := by
  obtain ⟨hmatch, hk, hfirst⟩ := firstAt?_eq_some_iff.mp h
  refine List.find?_eq_none.mpr fun n _ hn => ?_
  obtain ⟨hlt, hn⟩ := matchesAt_of_take hp hnil (wordBefore_of_matchesAt hmatch) hk.le hn
  rw [hfirst n hlt] at hn
  cases hn

/-! ### Without its ordering, or as it is -/

/-- A text without its ordering is the text as it is, or the text up to its first ordering, behind which no
placeholder stands. -/
theorem dropOrdering_cases (cs : List Char) :
    dropOrdering cs = cs ∨ ∃ k, firstAt? orderBy false cs = some k ∧ hasPlaceholder false (cs.drop k) = false ∧
      dropOrdering cs = cs.take k := by
  rw [dropOrdering_eq]
  cases hk : firstAt? orderBy false cs with
  | none => exact .inl rfl
  | some k =>
      cases hbind : hasPlaceholder false (cs.drop k) with
      | true => exact .inl (by simp [hbind])
      | false => exact .inr ⟨k, rfl, hbind, by simp [hbind]⟩

/-! ### Select lists that have been replaced -/

theorem length_countSelect : countSelect.length = 29 := by decide

/-- Where there is a `select`, and a `from` behind it, there are a first one and a first one behind that. -/
theorem exists_listCut? (hselect : matchesAt (keyword "select") false cs m = true)
    (hfrom : matchesAt (keyword "from") false cs n = true) (h : m < n) : ∃ i j, listCut? cs = some (i, j) := by
  have hlength := le_length_of_matchesAt isKeyword_from.1 hfrom
  have hpos := isKeyword_from.1
  obtain ⟨i, hi⟩ : ∃ i, firstAt? (keyword "select") false cs = some i := by
    rw [← Option.isSome_iff_exists, firstAt?, List.find?_isSome]
    exact ⟨m, List.mem_range.mpr (by omega), hselect⟩
  have him : i ≤ m := by
    by_contra hlt
    rw [(firstAt?_eq_some_iff.mp hi).2.2 m (by omega)] at hselect
    cases hselect
  obtain ⟨j, hj⟩ : ∃ j, firstBehind? (keyword "from") i cs = some j := by
    rw [← Option.isSome_iff_exists, firstBehind?, List.find?_isSome]
    exact ⟨n, List.mem_range.mpr (by omega), by simp [hfrom, show i < n by omega]⟩
  exact ⟨i, j, by rw [listCut?, hi, Option.bind_some, hj, Option.map_some]⟩

/-- The two keywords, where there are a first one and a first one behind that. -/
theorem listCut?_eq_some_iff :
    listCut? cs = some (i, j) ↔
      firstAt? (keyword "select") false cs = some i ∧ firstBehind? (keyword "from") i cs = some j := by
  simp only [listCut?, Option.bind_eq_some_iff, Option.map_eq_some_iff, Prod.mk.injEq]
  constructor
  · rintro ⟨_, hi, _, hj, rfl, rfl⟩
    exact ⟨hi, hj⟩
  · rintro ⟨hi, hj⟩
    exact ⟨i, hi, j, hj, rfl, rfl⟩

theorem firstBehind?_eq_some_iff :
    firstBehind? p i cs = some j ↔
      (i < j ∧ matchesAt p false cs j = true) ∧ j < cs.length ∧ ∀ m < j, i < m → matchesAt p false cs m = false := by
  simp [firstBehind?, or_iff_not_imp_left]

/-- A text that is cut off where a word begins has no select list if it had none before. -/
theorem listCut?_take (hcut : wordBefore false cs k = false) (hk : k ≤ cs.length) (h : listCut? cs = none) :
    listCut? (cs.take k) = none := by
  rw [Option.eq_none_iff_forall_ne_some]
  rintro ⟨i, j⟩ hlist
  obtain ⟨hi, hj⟩ := listCut?_eq_some_iff.mp hlist
  have hselect := matchesAt_of_take (staysFound_keyword isKeyword_select) (keyword_nil isKeyword_select) hcut hk
    (firstAt?_eq_some_iff.mp hi).1
  obtain ⟨⟨hij, hj⟩, -⟩ := firstBehind?_eq_some_iff.mp hj
  have hfrom := matchesAt_of_take (staysFound_keyword isKeyword_from) (keyword_nil isKeyword_from) hcut hk hj
  obtain ⟨i', j', hnone⟩ := exists_listCut? hselect.2 hfrom.2 hij
  rw [h] at hnone
  cases hnone

/-- A text whose first `select` begins what replaces a select list. -/
structure CountText (cs : List Char) (i : Nat) : Prop where
  written : cs.drop i = countSelect ++ cs.drop (i + 29)
  begins : wordBefore false cs i = false
  ends : endsWord (cs.drop (i + 29)) = true
  first : ∀ m < i, matchesAt (keyword "select") false cs m = false

/-- The parts of a text with its select list replaced. -/
theorem withCount_parts (hi : i ≤ cs.length) :
    (withCount cs i j).take i = cs.take i ∧ (withCount cs i j).drop i = countSelect ++ cs.drop (j + 4) ∧
      (withCount cs i j).drop (i + 29) = cs.drop (j + 4) := by
  have hwritten : (withCount cs i j).drop i = countSelect ++ cs.drop (j + 4) := by
    simp [withCount, List.length_take, hi]
  refine ⟨by simp [withCount, List.length_take, hi], hwritten, ?_⟩
  rw [← List.drop_drop, hwritten, List.drop_left' length_countSelect]

theorem countText_withCount (h : listCut? cs = some (i, j)) : CountText (withCount cs i j) i := by
  obtain ⟨hi, hj⟩ := listCut?_eq_some_iff.mp h
  obtain ⟨hselect, hlt, hfirst⟩ := firstAt?_eq_some_iff.mp hi
  obtain ⟨-, -, -, -, -, hends⟩ := keyword_of_matchesAt (firstBehind?_eq_some_iff.mp hj).1.2
  obtain ⟨htake, hwritten, hrest⟩ := withCount_parts (j := j) hlt.le
  have hbefore := wordBefore_of_matchesAt hselect
  have hbegins : wordBefore false (withCount cs i j) i = false := by
    rw [← wordBefore_take le_rfl, htake, wordBefore_take le_rfl, hbefore]
  have hle : i ≤ (withCount cs i j).length := by
    simp [withCount, List.length_take, hlt.le]
  refine ⟨by rw [hwritten, hrest], hbegins, by rw [hrest]; exact hends, fun m hm => ?_⟩
  rw [← matchesAt_take isKeyword_select hbegins hle hm, htake, matchesAt_take isKeyword_select hbefore hlt.le hm]
  exact hfirst m hm

namespace CountText

theorem length_le (h : CountText cs i) : i + 29 ≤ cs.length := by
  have hlength := congrArg List.length h.written
  rw [List.length_append, length_countSelect, List.length_drop, List.length_drop] at hlength
  omega

theorem drop_add (h : CountText cs i) (m : Nat) : cs.drop (i + m) = (countSelect ++ cs.drop (i + 29)).drop m := by
  rw [← h.written, List.drop_drop]

/-- The keywords of what has been written are found again. -/
theorem listCut?_eq (h : CountText cs i) : listCut? cs = some (i, i + 25) := by
  have hlength := h.length_le
  have hselect : matchesAt (keyword "select") false cs i = true := by
    rw [matchesAt, h.begins, h.written]
    rfl
  have hfrom : matchesAt (keyword "from") false cs (i + 25) = true := by
    have hbefore : cs[i + 24]? = some ' ' := by
      rw [← List.head?_drop, h.drop_add]
      rfl
    have hletters : dropLetters? "from".toList ((countSelect ++ cs.drop (i + 29)).drop 25) = some (cs.drop (i + 29)) :=
      rfl
    have hkeyword : keyword "from" (cs.drop (i + 25)) = some (cs.drop (i + 29)) := by
      rw [h.drop_add, keyword, hletters, Option.filter_some, if_pos h.ends]
    rw [matchesAt, hkeyword, wordBefore, hbefore]
    rfl
  have hnone : ∀ d < 25, keyword "from" (cs.drop (i + d)) = none := by
    intro d hd
    rw [h.drop_add]
    interval_cases d <;> rfl
  refine listCut?_eq_some_iff.mpr ⟨firstAt?_eq_some_iff.mpr ⟨hselect, by omega, h.first⟩, ?_⟩
  refine firstBehind?_eq_some_iff.mpr ⟨⟨by omega, hfrom⟩, by omega, fun m hm him => ?_⟩
  obtain ⟨d, rfl⟩ := Nat.exists_eq_add_of_lt him
  rw [matchesAt, Nat.add_assoc, hnone (d + 1) (by omega), Option.isSome_none, Bool.and_false]

/-- **A select list that has been replaced is replaced by what stands there.** -/
theorem replaceSelectList_eq (h : CountText cs i) : replaceSelectList cs = cs := by
  rw [Sql.replaceSelectList_eq, h.listCut?_eq]
  dsimp only
  rw [withCount, List.append_assoc, ← h.written, List.take_append_drop]

/-- No ordering begins in what has been written. -/
theorem not_ordering (h : CountText cs i) (hm : i ≤ m) (hordering : matchesAt orderBy false cs m = true) :
    i + 29 < m := by
  have hnone : ∀ d < 29, orderBy (cs.drop (i + d)) = none := by
    intro d hd
    rw [h.drop_add]
    interval_cases d <;> rfl
  obtain ⟨d, rfl⟩ := Nat.exists_eq_add_of_le hm
  by_contra hle
  rcases Nat.lt_or_ge d 29 with hd | hd
  · rw [matchesAt, hnone d hd, Option.isSome_none, Bool.and_false] at hordering
    cases hordering
  · -- right behind it a word has ended
    obtain rfl : d = 29 := by omega
    have hlast : cs[i + 28]? = some 'm' := by
      rw [← List.head?_drop, h.drop_add]
      rfl
    have hbefore := wordBefore_of_matchesAt hordering
    rw [wordBefore, hlast] at hbefore
    cases hbefore

theorem take (h : CountText cs i) (hk : k ≤ cs.length) (hik : i + 29 ≤ k) (hcut : wordBefore false cs k = false) :
    CountText (cs.take k) i := by
  have hwritten : (cs.take k).drop i = countSelect ++ (cs.take k).drop (i + 29) := by
    rw [List.drop_take, h.written, List.drop_take, List.take_append, length_countSelect,
      List.take_of_length_le (by rw [length_countSelect]; omega), Nat.sub_sub]
  refine ⟨hwritten, by rw [wordBefore_take (by omega), h.begins], ?_, fun m hm => ?_⟩
  · rw [List.drop_take]
    exact endsWord_take h.ends _
  · rw [matchesAt_take isKeyword_select hcut hk (by omega)]
    exact h.first m hm

end CountText

/-- What replaces a select list, in a text that has one. -/
theorem replaceSelectList_cases (cs : List Char) :
    (listCut? cs = none ∧ replaceSelectList cs = cs) ∨
      ∃ i j, listCut? cs = some (i, j) ∧ replaceSelectList cs = withCount cs i j := by
  rw [replaceSelectList_eq]
  cases h : listCut? cs with
  | none => exact .inl ⟨rfl, rfl⟩
  | some ij => exact .inr ⟨ij.1, ij.2, rfl, rfl⟩

/-- A text up to its ordering has its select list replaced if it had before. -/
theorem replaceSelectList_take (hk : firstAt? orderBy false cs = some k)
    (h : listCut? cs = none ∨ ∃ i, CountText cs i) : replaceSelectList (cs.take k) = cs.take k := by
  obtain ⟨hordering, hlt, -⟩ := firstAt?_eq_some_iff.mp hk
  have hcut := wordBefore_of_matchesAt hordering
  have hnone (h : listCut? (cs.take k) = none) : replaceSelectList (cs.take k) = cs.take k := by
    rw [replaceSelectList_eq, h]
  rcases h with h | ⟨i, h⟩
  · exact hnone (listCut?_take hcut hlt.le h)
  · rcases Nat.lt_or_ge k i with hki | hik
    · -- the ordering stands before the `select`
      refine hnone (Option.eq_none_iff_forall_ne_some.mpr ?_)
      rintro ⟨i', j'⟩ hlist
      obtain ⟨hi', -⟩ := listCut?_eq_some_iff.mp hlist
      obtain ⟨hlt', hmatch⟩ := matchesAt_of_take (staysFound_keyword isKeyword_select) (keyword_nil isKeyword_select)
        hcut hlt.le (firstAt?_eq_some_iff.mp hi').1
      rw [h.first i' (by omega)] at hmatch
      cases hmatch
    · exact (h.take hlt.le (h.not_ordering hik hordering).le hcut).replaceSelectList_eq

theorem dropOrdering_take (hk : firstAt? orderBy false cs = some k) : dropOrdering (cs.take k) = cs.take k := by
  rw [dropOrdering_eq, firstAt?_take staysFound_orderBy orderBy_nil hk]

/-- **The count statement of a count statement is itself.** -/
theorem deriveCountChars_deriveCountChars (cs : List Char) :
    deriveCountChars (deriveCountChars cs) = deriveCountChars cs := by
  have hagain : ∀ t, replaceSelectList t = t → (listCut? t = none ∨ ∃ i, CountText t i) →
      deriveCountChars (dropOrdering t) = dropOrdering t := by
    intro t ht hlist
    rcases dropOrdering_cases t with hdrop | ⟨k, hk, -, hdrop⟩
    · rw [hdrop, deriveCountChars, ht, hdrop]
    · rw [hdrop, deriveCountChars, replaceSelectList_take hk hlist, dropOrdering_take hk]
  rw [deriveCountChars.eq_def cs]
  rcases replaceSelectList_cases cs with ⟨hnone, hsame⟩ | ⟨i, j, hlist, hreplaced⟩
  · rw [hsame]
    exact hagain cs hsame (.inl hnone)
  · have htext := countText_withCount hlist
    rw [hreplaced]
    exact hagain _ htext.replaceSelectList_eq (.inr ⟨i, htext⟩)

/-! ### Placeholders that are kept -/

/-- In a text that ends in no word and in no colon, placeholders are complete. -/
theorem frontPlaceholder?_append (hne : a ≠ []) (ha : EndsOutsideWord a) (hcolon : a.getLast? ≠ some ':')
    (blocked : Bool) (b : List Char) : frontPlaceholder? blocked (a ++ b) = frontPlaceholder? blocked a := by
  obtain ⟨c, a, rfl⟩ := List.exists_cons_of_ne_nil hne
  rw [List.cons_append, frontPlaceholder?, frontPlaceholder?]
  by_cases hc : c = ':'
  · -- behind the colon the text goes on, and the name ends in it
    have hrest : a ≠ [] := by
      rintro rfl
      exact hcolon (by rw [hc, List.getLast?_singleton])
    have hends : EndsOutsideWord a := ha.of_append (a := [c]) hrest
    have hname : (a ++ b).takeWhile isWord = a.takeWhile isWord := by
      rw [List.takeWhile_append, if_neg]
      intro hlength
      have hall := List.takeWhile_eq_self_iff.mp ((List.takeWhile_prefix isWord).eq_of_length hlength)
      obtain ⟨d, hd⟩ := Option.isSome_iff_exists.mp (List.getLast?_isSome.mpr hrest)
      exact absurd (hall d (List.mem_of_getLast? hd)) (by simp [hends d hd])
    have hhead : (a ++ b).head? = a.head? := List.head?_append_of_ne_nil a hrest
    rw [hname, hhead]
  · simp [hc]

/-- What begins before the cut. -/
theorem placeholderAt?_take (hk : k ≤ cs.length) (hcut : wordBefore false cs k = false)
    (hcolon : (cs.take k).getLast? ≠ some ':') (hn : n < k) :
    placeholderAt? false (cs.take k) n = placeholderAt? false cs n := by
  obtain ⟨hne, hends, hwhole⟩ := drop_take_of_cut hcut hk hn
  have hbefore : blockedBefore false (cs.take k) n = blockedBefore false cs n := by
    cases n with
    | zero => rfl
    | succ n => simp [blockedBefore, show n < k by omega]
  have hlast : ((cs.take k).drop n).getLast? = (cs.take k).getLast? := by
    rw [List.getLast?_drop, if_neg (by rw [List.length_take]; omega)]
  rw [placeholderAt?, placeholderAt?, hbefore, ← hwhole,
    frontPlaceholder?_append hne hends (by rwa [hlast])]

/-- A text that is cut off before an ordering behind which nothing needs a value has lost no placeholder. -/
theorem placeholdersFrom_take (hk : k ≤ cs.length) (hcut : wordBefore false cs k = false)
    (hcolon : n < k → (cs.take k).getLast? ≠ some ':') (hbind : hasPlaceholder false (cs.drop k) = false) :
    placeholdersFrom n (cs.take k) = placeholdersFrom n cs := by
  have hlength : (cs.take k).length = k := by rw [List.length_take, Nat.min_eq_left hk]
  have hnone : ∀ start count, k ≤ start → (List.range' start count).filterMap (placeholderAt? false cs) = [] := by
    intro start count hstart
    refine List.filterMap_eq_nil_iff.mpr fun m hm => placeholderAt?_of_not_hasPlaceholder hbind ?_
    have := (List.mem_range'_1.mp hm).1
    omega
  rw [placeholdersFrom, placeholdersFrom, hlength]
  rcases Nat.lt_or_ge n k with hnk | hkn
  · have hsplit : List.range' n (cs.length - n) = List.range' n (k - n) ++ List.range' k (cs.length - k) := by
      rw [show cs.length - n = (k - n) + (cs.length - k) by omega, List.range'_append_1.symm]
      congr 2
      omega
    rw [hsplit, List.filterMap_append, hnone k _ le_rfl, List.append_nil]
    refine List.filterMap_congr fun m hm => placeholderAt?_take hk hcut (hcolon hnk) ?_
    have := (List.mem_range'_1.mp hm).2
    omega
  · rw [hnone n _ hkn, Nat.sub_eq_zero_of_le hkn]
    rfl

/-! ### Behind the `from` -/

theorem blockedBefore_of_wordBefore (h : wordBefore false cs n = true) : blockedBefore false cs n = true := by
  cases n with
  | zero => cases h
  | succ n =>
      obtain ⟨c, hc, hword⟩ := (Option.any_eq_true _ _).mp h
      simp [blockedBefore, hc, hword]

/-- Behind the two `from`s the count statement and the statement go on alike: before them stands a word, and then the
same. -/
theorem behind_from (h : listCut? cs = some (i, j)) (n : Nat) :
    (withCount cs i j).drop (i + 29 + n) = cs.drop (j + 4 + n) ∧
      wordBefore false (withCount cs i j) (i + 29) = true ∧ wordBefore false cs (j + 4) = true ∧
      (withCount cs i j)[i + 29 + n]? = cs[j + 4 + n]? := by
  obtain ⟨hi, hj⟩ := listCut?_eq_some_iff.mp h
  obtain ⟨-, -, hrest⟩ := withCount_parts (j := j) (firstAt?_eq_some_iff.mp hi).2.1.le
  have hlast : (withCount cs i j)[i + 28]? = some 'm' := by
    rw [← List.head?_drop, (countText_withCount h).drop_add]
    rfl
  refine ⟨by rw [← List.drop_drop, hrest, List.drop_drop], by rw [wordBefore, hlast]; rfl, ?_, ?_⟩
  · exact wordBefore_of_keyword isKeyword_from (firstBehind?_eq_some_iff.mp hj).1.2 (by omega) le_rfl
  · rw [← List.getElem?_drop, hrest, List.getElem?_drop]

theorem matchesAt_withCount (h : listCut? cs = some (i, j)) (p : Pattern) (n : Nat) :
    matchesAt p false (withCount cs i j) (i + 29 + n) = matchesAt p false cs (j + 4 + n) := by
  obtain ⟨hdrop, hbefore, hbefore', -⟩ := behind_from h n
  rw [matchesAt, matchesAt, hdrop]
  cases n with
  | zero => rw [Nat.add_zero, Nat.add_zero, hbefore, hbefore']
  | succ n =>
      obtain ⟨-, -, -, hsame⟩ := behind_from h n
      rw [← Nat.add_assoc, ← Nat.add_assoc, wordBefore, wordBefore, hsame]

theorem placeholdersFrom_withCount (h : listCut? cs = some (i, j)) :
    placeholdersFrom (i + 29) (withCount cs i j) = placeholdersFrom (j + 4) cs := by
  have hlength : (withCount cs i j).length - (i + 29) = cs.length - (j + 4) := by
    rw [← List.length_drop, ← List.length_drop, ← Nat.add_zero (i + 29), (behind_from h 0).1, Nat.add_zero]
  rw [placeholdersFrom, placeholdersFrom, hlength, List.range'_eq_map_range, List.range'_eq_map_range,
    List.filterMap_map, List.filterMap_map]
  refine List.filterMap_congr fun n _ => ?_
  obtain ⟨hdrop, hbefore, hbefore', -⟩ := behind_from h n
  rw [Function.comp_apply, Function.comp_apply, placeholderAt?, placeholderAt?, hdrop]
  cases n with
  | zero =>
      rw [Nat.add_zero, Nat.add_zero, blockedBefore_of_wordBefore hbefore, blockedBefore_of_wordBefore hbefore']
  | succ n =>
      obtain ⟨-, -, -, hsame⟩ := behind_from h n
      rw [← Nat.add_assoc, ← Nat.add_assoc, blockedBefore, blockedBefore, hsame]

/-- No `order by` stands right behind a colon. -/
def OrderingsClear (cs : List Char) : Prop :=
  ∀ n, matchesAt orderBy false cs (n + 1) = true → cs[n]? ≠ some ':'

/-- **Live placeholders are kept**: behind the first `from`, the count statement has those of the statement. -/
theorem placeholdersFrom_deriveCountChars (h : listCut? cs = some (i, j)) (hclear : OrderingsClear cs) :
    placeholdersFrom (i + 29) (deriveCountChars cs) = placeholdersFrom (j + 4) cs := by
  rw [← placeholdersFrom_withCount h, deriveCountChars, replaceSelectList_eq, h]
  dsimp only
  rcases dropOrdering_cases (withCount cs i j) with hdrop | ⟨k, hk, hbind, hdrop⟩
  · rw [hdrop]
  · obtain ⟨hordering, hlt, -⟩ := firstAt?_eq_some_iff.mp hk
    rw [hdrop]
    refine placeholdersFrom_take hlt.le (wordBefore_of_matchesAt hordering) (fun hik hcolon => ?_) hbind
    -- the ordering is one of the statement's own, so that no colon stands before it
    obtain ⟨n, rfl⟩ := Nat.exists_eq_add_of_lt hik
    obtain ⟨-, -, -, hsame⟩ := behind_from h n
    rw [Nat.add_assoc, matchesAt_withCount h] at hordering
    have hlast : cs[j + 4 + n]? = some ':' := by
      rw [List.getLast?_take, if_neg (by omega), Nat.add_sub_cancel, List.getElem?_eq_getElem (by omega)] at hcolon
      rw [← hsame, List.getElem?_eq_getElem (by omega)]
      exact hcolon
    exact hclear (j + 4 + n) (by rwa [← Nat.add_assoc] at hordering) hlast

/-- **The count statement keeps every live placeholder, and is its own count statement.** For a statement with a
`select` and a `from` behind it, of which `i` and `j` are the first ones, the count statement has behind its `from`
the placeholders that the statement has behind `j`, in the same order. -/
theorem count_keeps_live_binds (sql : String) :
    deriveCount (deriveCount sql) = deriveCount sql ∧
      ∀ a b, matchesAt (keyword "select") false sql.toList a = true →
        matchesAt (keyword "from") false sql.toList b = true → a < b → OrderingsClear sql.toList →
          ∃ i j, listCut? sql.toList = some (i, j) ∧
            placeholdersFrom (i + countSelect.length) (deriveCount sql).toList =
              placeholdersFrom (j + "from".length) sql.toList := by
  constructor
  · rw [deriveCount, deriveCount, String.toList_ofList, deriveCountChars_deriveCountChars]
  · intro a b hselect hfrom hab hclear
    obtain ⟨i, j, hlist⟩ := exists_listCut? hselect hfrom hab
    refine ⟨i, j, hlist, ?_⟩
    rw [deriveCount, String.toList_ofList]
    exact placeholdersFrom_deriveCountChars hlist hclear

/-- A statement with a placeholder in its select list and two behind it. -/
def boundStatement : String := "select a, :x from t where b = :b and c = ? order by c"

/-- The placeholder in the select list goes with it; the ordering goes too, since nothing behind it needs a value. -/
theorem count_keeps_live_binds_before_ordering :
    matchesAt (keyword "select") false boundStatement.toList 0 = true ∧
      matchesAt (keyword "from") false boundStatement.toList 13 = true ∧ OrderingsClear boundStatement.toList ∧
      placeholdersFrom 17 boundStatement.toList = [":b".toList, "?".toList] ∧
      ∃ i j, listCut? boundStatement.toList = some (i, j) ∧
        placeholdersFrom (i + countSelect.length) (deriveCount boundStatement).toList =
          placeholdersFrom (j + "from".length) boundStatement.toList := by
  have hselect : matchesAt (keyword "select") false boundStatement.toList 0 = true := by cbv
  have hfrom : matchesAt (keyword "from") false boundStatement.toList 13 = true := by cbv
  have hordering : (List.range boundStatement.toList.length).filter (matchesAt orderBy false boundStatement.toList) =
      [43] := by
    cbv
  have hclear : OrderingsClear boundStatement.toList := by
    intro n hmatch
    have hmem := List.mem_filter.mpr ⟨List.mem_range.mpr (lt_length_of_matchesAt orderBy_nil hmatch), hmatch⟩
    rw [hordering, List.mem_singleton] at hmem
    obtain rfl : n = 42 := by omega
    decide
  have hplaceholders : placeholdersFrom 17 boundStatement.toList = [":b".toList, "?".toList] := by cbv
  exact ⟨hselect, hfrom, hclear, hplaceholders,
    (count_keeps_live_binds boundStatement).2 0 13 hselect hfrom (by decide) hclear⟩

end SqlMapper.Sql
