import Mathlib
import SqlMapper.Sql.Token
import SqlMapper.Proofs.Sql.Keyword
/-!
# SqlMapper.Proofs.Sql.CountBoundary

Which keywords the count statement is cut at. The search for them knows no literals and no comments, so the
words that stand there (`hiddenPositions`) compete with those of the statement itself (`codePositions`). For a
statement with one `select` and one `from` behind it (`SingleLevel`) this decides everything
(`count_boundaries`): it is cut at its own keywords if and only if no hidden one stands before them; and then
the count statement is what it should be (`countOf`). A hidden word that comes first is taken for the boundary
(`not_countOf`).
-/

namespace SqlMapper.Sql

/-! ### Code, literals and comments -/

/-- Is a token code, neither a literal nor a comment? -/
def Token.isCode : Token → Bool
  | blank _ => true
  | char _ => true
  | lineComment _ | quoted _ | blockComment _ => false

/-- For each character of a text: does it stand outside literals and comments? -/
def codeMask (cs : List Char) : List Bool :=
  (lex cs).flatMap fun t => List.replicate t.text.length t.isCode

/-- Does a position lie outside literals and comments? -/
def inCode (cs : List Char) (n : Nat) : Bool := (codeMask cs)[n]? == some true

/-- The positions where a pattern matches outside literals and comments. -/
def codePositions (p : Pattern) (cs : List Char) : List Nat :=
  (List.range cs.length).filter fun n => matchesAt p false cs n && inCode cs n

/-- The positions where a pattern matches inside a literal or a comment. -/
def hiddenPositions (p : Pattern) (cs : List Char) : List Nat :=
  (List.range cs.length).filter fun n => matchesAt p false cs n && !inCode cs n

variable {p : Pattern} {cs : List Char} {i j n : Nat}

theorem mem_codePositions :
    n ∈ codePositions p cs ↔ n < cs.length ∧ matchesAt p false cs n = true ∧ inCode cs n = true := by
  simp [codePositions]

theorem mem_hiddenPositions :
    n ∈ hiddenPositions p cs ↔ n < cs.length ∧ matchesAt p false cs n = true ∧ inCode cs n = false := by
  simp [hiddenPositions]

theorem not_hidden_of_inCode (h : inCode cs n = true) : n ∉ hiddenPositions p cs := fun hn => by
  have hhidden := (mem_hiddenPositions.mp hn).2.2
  exact absurd h (by simp [hhidden])

/-- A match is one of the code, or a hidden one. -/
theorem matchesAt_iff (hn : n < cs.length) :
    matchesAt p false cs n = true ↔ n ∈ codePositions p cs ∨ n ∈ hiddenPositions p cs := by
  rw [mem_codePositions, mem_hiddenPositions]
  cases inCode cs n <;> simp [hn]

/-! ### The first match -/

theorem head?_codePositions_eq_some_iff :
    (codePositions p cs).head? = some n ↔ n ∈ codePositions p cs ∧ ∀ m < n, m ∉ codePositions p cs := by
  rw [codePositions, List.head?_filter, List.find?_range_eq_some]
  constructor
  · rintro ⟨hn, hlt, hfirst⟩
    refine ⟨List.mem_filter.mpr ⟨hlt, hn⟩, fun m hm hmem => ?_⟩
    simpa [(List.mem_filter.mp hmem).2] using hfirst m hm
  · rintro ⟨hn, hfirst⟩
    obtain ⟨hlt, hn⟩ := List.mem_filter.mp hn
    refine ⟨hn, hlt, fun m hm => ?_⟩
    by_contra hmatch
    have hmem : m < cs.length := hm.trans (List.mem_range.mp hlt)
    exact hfirst m hm (List.mem_filter.mpr ⟨List.mem_range.mpr hmem, by simpa using hmatch⟩)

theorem firstAt?_eq_some_iff_mem :
    firstAt? p false cs = some n ↔
      (n ∈ codePositions p cs ∨ n ∈ hiddenPositions p cs) ∧
        ∀ m < n, m ∉ codePositions p cs ∧ m ∉ hiddenPositions p cs := by
  rw [firstAt?_eq_some_iff]
  constructor
  · rintro ⟨hmatch, hlt, hfirst⟩
    refine ⟨(matchesAt_iff hlt).mp hmatch, fun m hm => ?_⟩
    rw [← not_or, ← matchesAt_iff (hm.trans hlt), hfirst m hm]
    exact Bool.false_ne_true
  · rintro ⟨hmem, hfirst⟩
    have hlt : n < cs.length := hmem.elim (fun h => (mem_codePositions.mp h).1)
      fun h => (mem_hiddenPositions.mp h).1
    refine ⟨(matchesAt_iff hlt).mpr hmem, hlt, fun m hm => ?_⟩
    have hnot := not_or.mpr (hfirst m hm)
    rwa [← matchesAt_iff (hm.trans hlt), Bool.not_eq_true] at hnot

/-- The first match is the first one in the code, unless a hidden one comes before. -/
theorem firstAt?_eq_head?_iff :
    firstAt? p false cs = (codePositions p cs).head? ↔
      ∀ n ∈ hiddenPositions p cs, ∃ k ∈ codePositions p cs, k < n := by
  constructor
  · intro h n hn
    cases hk : firstAt? p false cs with
    | none =>
        obtain ⟨hlt, hmatch, -⟩ := mem_hiddenPositions.mp hn
        exact absurd hmatch (List.find?_eq_none.mp hk n (List.mem_range.mpr hlt))
    | some k =>
        have hcode := (head?_codePositions_eq_some_iff.mp (h.symm.trans hk)).1
        -- the first match is in the code, and a hidden one before it would have been found first
        refine ⟨k, hcode, lt_of_le_of_ne (not_lt.mp fun hlt => ?_) ?_⟩
        · exact ((firstAt?_eq_some_iff_mem.mp hk).2 n hlt).2 hn
        · rintro rfl
          exact not_hidden_of_inCode (mem_codePositions.mp hcode).2.2 hn
  · intro h
    refine Option.ext fun n => ?_
    rw [firstAt?_eq_some_iff_mem, head?_codePositions_eq_some_iff]
    constructor
    · rintro ⟨hcode | hhidden, hfirst⟩
      · exact ⟨hcode, fun m hm => (hfirst m hm).1⟩
      · obtain ⟨k, hk, hlt⟩ := h n hhidden
        exact absurd hk (hfirst k hlt).1
    · rintro ⟨hcode, hfirst⟩
      refine ⟨.inl hcode, fun m hm => ⟨hfirst m hm, fun hhidden => ?_⟩⟩
      obtain ⟨k, hk, hlt⟩ := h m hhidden
      exact hfirst k (hlt.trans hm) hk

/-! ### Statements of a single level -/

/-- A statement has one `select` of its own, at `i`, and behind it one `from` of its own, at `j`. -/
structure SingleLevel (cs : List Char) (i j : Nat) : Prop where
  select : codePositions (keyword "select") cs = [i]
  origin : codePositions (keyword "from") cs = [j]
  inOrder : i < j

/-- No hidden `select` stands before the statement's own, and no hidden `from` between the two keywords. -/
def ShowsList (cs : List Char) (i j : Nat) : Prop :=
  (∀ n ∈ hiddenPositions (keyword "select") cs, i < n) ∧
    ∀ n ∈ hiddenPositions (keyword "from") cs, n < i ∨ j < n

/-- Before each hidden `order by` stands one of the statement's own. -/
def ShowsOrdering (cs : List Char) : Prop :=
  ∀ n ∈ hiddenPositions orderBy cs, ∃ k ∈ codePositions orderBy cs, k < n

/-- The statement that counts the rows of a statement whose keywords are at `i` and `j`: its own ordering is
left out, unless a placeholder stands behind where it begins. -/
def countOf (cs : List Char) (i j : Nat) : List Char :=
  match (codePositions orderBy (withCount cs i j)).head? with
  | none => withCount cs i j
  | some k =>
    if hasPlaceholder false ((withCount cs i j).drop k) then withCount cs i j else (withCount cs i j).take k

namespace SingleLevel

variable (h : SingleLevel cs i j)

include h

theorem inCode_select : inCode cs i = true := by
  have hmem : i ∈ codePositions (keyword "select") cs := by simp [h.select]
  exact (mem_codePositions.mp hmem).2.2

theorem firstAt?_select :
    firstAt? (keyword "select") false cs = some i ↔ ∀ n ∈ hiddenPositions (keyword "select") cs, i < n := by
  have hiff := @firstAt?_eq_head?_iff (keyword "select") cs
  simpa [h.select] using hiff

theorem firstBehind?_from :
    firstBehind? (keyword "from") i cs = some j ↔
      ∀ n ∈ hiddenPositions (keyword "from") cs, n < i ∨ j < n := by
  have hj : j ∈ codePositions (keyword "from") cs := by simp [h.origin]
  obtain ⟨hjlt, hjmatch, hjcode⟩ := mem_codePositions.mp hj
  rw [firstBehind?, List.find?_range_eq_some]
  constructor
  · rintro ⟨-, -, hfirst⟩ n hn
    have hni : n ≠ i := fun hni => not_hidden_of_inCode h.inCode_select (hni ▸ hn)
    have hnj : n ≠ j := fun hnj => not_hidden_of_inCode hjcode (hnj ▸ hn)
    by_contra! hbetween
    have hnot := hfirst n (by omega)
    have hin : i < n := by omega
    simp [hin, (mem_hiddenPositions.mp hn).2.1] at hnot
  · intro hhidden
    refine ⟨by simp [h.inOrder, hjmatch], List.mem_range.mpr hjlt, fun n hn => ?_⟩
    -- between the keywords no other one is found: it is none of the code, and none that is hidden
    by_contra hmatch
    simp only [Bool.not_eq_true', Bool.and_eq_false_iff, decide_eq_false_iff_not, not_or,
      not_not, Bool.not_eq_false] at hmatch
    obtain ⟨hin, hmatch⟩ := hmatch
    rcases (matchesAt_iff (hn.trans hjlt)).mp hmatch with hcode | hmem
    · rw [h.origin, List.mem_singleton] at hcode
      omega
    · have := hhidden n hmem
      omega

/-- The select list is replaced between the statement's own keywords if and only if they show. -/
theorem listCut?_eq_iff : listCut? cs = some (i, j) ↔ ShowsList cs i j := by
  rw [ShowsList, ← h.firstAt?_select, ← h.firstBehind?_from]
  simp only [listCut?, Option.bind_eq_some_iff, Option.map_eq_some_iff, Prod.mk.injEq]
  constructor
  · rintro ⟨a, ha, b, hb, rfl, rfl⟩
    exact ⟨ha, hb⟩
  · rintro ⟨ha, hb⟩
    exact ⟨i, ha, j, hb, rfl, rfl⟩

end SingleLevel

/-- **Count boundaries**: the count statement of a statement of a single level is cut at the statement's own
keywords exactly if no hidden one stands before them, and if it is, the count statement is the text before
`select`, the count of rows, and the text behind `from`, up to the ordering where this needs no value. -/
theorem count_boundaries {sql : String} {i j : Nat} (h : SingleLevel sql.toList i j) :
    (listCut? sql.toList = some (i, j) ↔ ShowsList sql.toList i j) ∧
      (firstAt? orderBy false (withCount sql.toList i j) =
          (codePositions orderBy (withCount sql.toList i j)).head? ↔
        ShowsOrdering (withCount sql.toList i j)) ∧
      (ShowsList sql.toList i j → ShowsOrdering (withCount sql.toList i j) →
        (deriveCount sql).toList = countOf sql.toList i j) := by
  refine ⟨h.listCut?_eq_iff, firstAt?_eq_head?_iff, fun hlist hordering => ?_⟩
  rw [deriveCount, String.toList_ofList, deriveCountChars_of_listCut? (h.listCut?_eq_iff.mpr hlist),
    firstAt?_eq_head?_iff.mpr hordering]
  rfl

/-- Keywords in literals do no harm behind the statement's own. -/
theorem count_boundaries_before_literal :
    SingleLevel "select a from t order by 'from'".toList 0 9 ∧
      (deriveCount "select a from t order by 'from'").toList =
        countOf "select a from t order by 'from'".toList 0 9 := by
  have hlevel : SingleLevel "select a from t order by 'from'".toList 0 9 := ⟨by cbv, by cbv, by decide⟩
  have hselect : hiddenPositions (keyword "select") "select a from t order by 'from'".toList = [] := by cbv
  have hfrom : hiddenPositions (keyword "from") "select a from t order by 'from'".toList = [26] := by cbv
  have hordering : hiddenPositions orderBy (withCount "select a from t order by 'from'".toList 0 9) = [] := by
    cbv
  refine ⟨hlevel, (count_boundaries hlevel).2.2 ⟨?_, ?_⟩ ?_⟩
  · rw [hselect]
    decide
  · rw [hfrom]
    decide
  · rw [ShowsOrdering, hordering]
    exact fun n hn => absurd hn List.not_mem_nil

/-- A hidden word that comes first is taken for the boundary: a `from` in the select list, a `select` before
the statement, and an `order by` in a comment behind a statement without an ordering. -/
theorem not_countOf :
    (SingleLevel "select 'from' from t".toList 0 14 ∧
      (deriveCount "select 'from' from t").toList ≠ countOf "select 'from' from t".toList 0 14) ∧
    (SingleLevel "/*select*/select a from t".toList 10 19 ∧
      (deriveCount "/*select*/select a from t").toList ≠ countOf "/*select*/select a from t".toList 10 19) ∧
    SingleLevel "select a from t--order by".toList 0 9 ∧
      (deriveCount "select a from t--order by").toList ≠ countOf "select a from t--order by".toList 0 9 := by
  have hfrom : SingleLevel "select 'from' from t".toList 0 14 := ⟨by cbv, by cbv, by decide⟩
  have hselect : SingleLevel "/*select*/select a from t".toList 10 19 := ⟨by cbv, by cbv, by decide⟩
  have hordering : SingleLevel "select a from t--order by".toList 0 9 := ⟨by cbv, by cbv, by decide⟩
  refine ⟨⟨hfrom, ?_⟩, ⟨hselect, ?_⟩, hordering, ?_⟩
  all_goals exact of_decide_eq_true (by cbv)

end SqlMapper.Sql
