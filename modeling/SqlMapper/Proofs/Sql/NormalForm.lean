import Mathlib
import SqlMapper.Proofs.Sql.OneLine
/-!
# SqlMapper.Proofs.Sql.NormalForm

Which texts are the one-line form of some statement, told from their tokens alone (`IsNormal`): there is no
line comment, and blanks are single spaces between two tokens, never next to the inside of a parenthesis and
never before an opening one. Exactly these texts are left as they are (`normalize_fixes_iff`).

What carries the proofs is the same condition in steps, token by token behind the one before (`Spaced`): the
tokens of a one-line form meet it by the way they were laid out, and tokens that meet it are laid out as they
stand. To go over from the condition on positions to the one in steps takes one fact about reading, that
no blanks follow blanks.
-/

namespace SqlMapper.Sql

open SqlMapper.Text

/-! ### Normal forms -/

/-- Between two tokens as they follow a given one, is each blank a single space where one is due, and is there
no line comment? -/
structure HasNormalGaps (previous : Option Token) (ts : List Token) : Prop where
  not_lineComment : ∀ cs, .lineComment cs ∉ ts
  space : ∀ before cs after, ts = before ++ .blank cs :: after →
    cs = [' '] ∧ ∃ left right, (previous.toList ++ before).getLast? = some left ∧
      after.head? = some right ∧ left.isOpen = false ∧ right.isParenthesis = false

/-- Is a text a one-line form? It has no line comment, and every run of blanks is one space that stands between
two tokens, the left one no opening parenthesis, the right one no parenthesis. -/
def IsNormal (sql : String) : Prop := HasNormalGaps none (lex sql.toList)

/-- The same step by step: tokens that follow a given one. -/
inductive Spaced : Option Token → List Token → Prop
  | nil {previous : Option Token} : Spaced previous []
  | token {previous : Option Token} {t : Token} {ts : List Token} (ht : t.isSeparator = false)
      (rest : Spaced (some t) ts) : Spaced previous (t :: ts)
  | space {left t : Token} {ts : List Token} (hl : left.isOpen = false) (ht : t.isSeparator = false)
      (hp : t.isParenthesis = false) (rest : Spaced (some t) ts) :
      Spaced (some left) (.blank [' '] :: t :: ts)

/-! ### From one-line forms to normal forms -/

theorem spaced_laidOut (previous : Option Token) (separated : Bool) (ts : List Token) :
    Spaced previous (laidOut previous separated ts) := by
  induction ts generalizing previous separated with
  | nil => exact .nil
  | cons t ts ih =>
      unfold laidOut
      cases ht : t.isSeparator with
      | true =>
          rw [if_pos rfl]
          exact ih previous true
      | false =>
          rw [if_neg Bool.false_ne_true]
          dsimp only
          split
          case isTrue hspace =>
              simp only [Bool.and_eq_true, Bool.not_eq_true', Option.any_eq_true] at hspace
              obtain ⟨⟨-, left, rfl, hl⟩, hp⟩ := hspace
              exact .space hl ht hp (ih (some t) false)
          case isFalse => exact .token ht (ih (some t) false)

theorem Spaced.hasNormalGaps {previous : Option Token} {ts : List Token} (h : Spaced previous ts) :
    HasNormalGaps previous ts := by
  induction h with
  | nil => exact ⟨by simp, by simp⟩
  | @token previous t ts ht rest ih =>
      refine ⟨fun cs hcs => ?_, fun before cs after hts => ?_⟩
      · rcases List.mem_cons.mp hcs with rfl | hcs
        · cases ht
        · exact ih.not_lineComment cs hcs
      · cases before with
        | nil =>
            cases hts
            cases ht
        | cons u before =>
            obtain ⟨rfl, htail⟩ := List.cons.inj hts
            simpa using ih.space before cs after htail
  | @space left t ts hl ht hp rest ih =>
      refine ⟨fun cs hcs => ?_, fun before cs after hts => ?_⟩
      · rcases List.mem_cons.mp hcs with hcs | hcs
        · cases hcs
        rcases List.mem_cons.mp hcs with rfl | hcs
        · cases ht
        · exact ih.not_lineComment cs hcs
      · match before with
        | [] =>
            cases hts
            exact ⟨rfl, left, t, rfl, rfl, hl, hp⟩
        | [u] =>
            cases hts
            cases ht
        | u :: v :: before =>
            obtain ⟨-, htail⟩ := List.cons.inj hts
            obtain ⟨rfl, hrest⟩ := List.cons.inj htail
            simpa using ih.space before cs after hrest

/-! ### From normal forms to one-line forms -/

/-- Tokens that are spaced are laid out as they stand. -/
theorem Spaced.layOut_eq {previous : Option Token} {ts : List Token} (h : Spaced previous ts) :
    layOut previous false ts = ts.flatMap Token.text := by
  induction h with
  | nil => rfl
  | token ht rest ih => simp [layOut, ht, ih]
  | @space left t ts hl ht hp rest ih =>
      have behindSpace : layOut (some left) true (t :: ts) = ' ' :: (t.text ++ ts.flatMap Token.text) := by
        simp [layOut, hl, ht, hp, ih]
      rw [layOut, if_pos Token.isSeparator_space, behindSpace]
      rfl

/-- Of tokens that were read, no blanks stand behind blanks. -/
theorem not_blank_of_blank {c : Char} {cs r : List Char} {bs ds : List Char} {ts : List Token}
    (h : Reads .library c cs (.blank bs) r) : lexWith .library r ≠ .blank ds :: ts := by
  intro hlex
  cases r with
  | nil => simp at hlex
  | cons d r =>
      obtain ⟨-, ends⟩ := h.closed_of_rest (by simp)
      have hd : isBlank d = false := ends d rfl
      have hread := reads_nextWith .library d r
      rw [lexWith_cons] at hlex
      generalize (nextWith .library d r).1 = t at *
      generalize (nextWith .library d r).2 = rest at *
      obtain ⟨rfl, -⟩ := List.cons.inj hlex
      cases hread with
      | blank _ hb => simp [hb] at hd

theorem HasNormalGaps.tail {previous : Option Token} {t : Token} {ts : List Token}
    (h : HasNormalGaps previous (t :: ts)) : HasNormalGaps (some t) ts where
  not_lineComment cs hcs := h.not_lineComment cs (List.mem_cons_of_mem t hcs)
  space before cs after hts := by
    simpa using h.space (t :: before) cs after (by rw [hts, List.cons_append])

/-- What was read with normal gaps is spaced. -/
theorem HasNormalGaps.spaced {previous : Option Token} {cs : List Char}
    (h : HasNormalGaps previous (lexWith .library cs)) : Spaced previous (lexWith .library cs) := by
  fun_induction lexWith .library cs generalizing previous with
  | case1 => exact .nil
  | case2 c cs ih =>
      have hread := reads_nextWith .library c cs
      generalize (nextWith .library c cs).1 = t at *
      generalize (nextWith .library c cs).2 = rest at *
      have hrest := ih h.tail
      cases t with
      | lineComment ds => exact absurd (by simp) (h.not_lineComment ds)
      | quoted | blockComment | char => exact .token rfl hrest
      | blank ds =>
          obtain ⟨rfl, left, right, hleft, hright, hopen, hparen⟩ := h.space [] ds _ rfl
          obtain ⟨ts, hts⟩ := List.head?_eq_some_iff.mp hright
          rw [List.append_nil] at hleft
          obtain rfl : previous = some left := by
            cases previous with
            | none => cases hleft
            | some t => simpa using hleft
          rw [hts] at hrest ⊢
          cases hrest with
          | token ht hts => exact .space hopen ht hparen hts
          | space => exact absurd hts (not_blank_of_blank hread)

/-! ### One-line forms -/

theorem lex_normalize (sql : String) :
    lex (normalize sql).toList = laidOut none false (lex sql.toList) := by
  have hlex := lexWith_layOut none false sql.toList
  rw [lexWith_library, lexWith_library] at hlex
  rw [normalize, normalizeChars, String.toList_ofList, hlex]

theorem isNormal_normalize (sql : String) : IsNormal (normalize sql) := by
  unfold IsNormal
  rw [lex_normalize]
  exact (spaced_laidOut none false _).hasNormalGaps

theorem IsNormal.normalize_eq {sql : String} (h : IsNormal sql) : normalize sql = sql := by
  unfold IsNormal at h
  rw [← lexWith_library] at h
  have hlaid := h.spaced.layOut_eq
  rw [flatMap_text_lexWith, lexWith_library] at hlaid
  rw [normalize, normalizeChars, hlaid, String.ofList_toList]

/-- **The normal forms are exactly what the one-line form makes of statements.** It is normal, whatever the
statement; it changes a statement unless that is normal already; so to take it twice is to take it once, and
every normal form is the one-line form of some statement. -/
theorem normalize_fixes_iff :
    (∀ sql, IsNormal (normalize sql)) ∧ (∀ sql, normalize sql = sql ↔ IsNormal sql) ∧
      (∀ sql, normalize (normalize sql) = normalize sql) ∧
        Set.range normalize = {sql | IsNormal sql} := by
  have fixes : ∀ sql, normalize sql = sql ↔ IsNormal sql := by
    intro sql
    refine ⟨fun h => ?_, IsNormal.normalize_eq⟩
    rw [← h]
    exact isNormal_normalize sql
  refine ⟨isNormal_normalize, fixes, fun sql => (isNormal_normalize sql).normalize_eq, ?_⟩
  ext sql
  constructor
  · rintro ⟨statement, rfl⟩
    exact isNormal_normalize statement
  · intro h
    exact ⟨sql, h.normalize_eq⟩

/-- A space may stand behind a parenthesis that closes, but not before one. -/
example : normalize "f ( a ) -- x\n b" = "f(a) b" := by cbv

end SqlMapper.Sql
