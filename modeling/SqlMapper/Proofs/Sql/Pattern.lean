import SqlMapper.Proofs.Sql.Constants
/-!
# SqlMapper.Proofs.Sql.Pattern

Patterns of `LIKE` (`Likes`), and the one that the filter for prefixes writes (`likeStart_finds_prefixes`): it matches the
texts that begin with the value's own, whatever is in it. A value is escaped twice, as a pattern and then as a literal; the
literal is read first, so that nothing is left of the second escaping when the first one is.
-/

namespace SqlMapper.Sql

/-! ### Patterns -/

/-- Does a pattern match a text? A percent sign matches any characters, an underscore one of them, and what stands behind
a backslash itself. -/
inductive Likes : List Char → List Char → Prop
  | nil : Likes [] []
  | escaped {c : Char} {p w : List Char} (rest : Likes p w) : Likes ('\\' :: c :: p) (c :: w)
  | any {p w : List Char} (v : List Char) (rest : Likes p w) : Likes ('%' :: p) (v ++ w)
  | one {c : Char} {p w : List Char} (rest : Likes p w) : Likes ('_' :: p) (c :: w)
  | char {c : Char} {p w : List Char} (hc : c ≠ '\\' ∧ c ≠ '%' ∧ c ≠ '_') (rest : Likes p w) : Likes (c :: p) (c :: w)

variable {c : Char} {p w : List Char}

theorem likes_escaped_iff : Likes ('\\' :: c :: p) w ↔ ∃ v, w = c :: v ∧ Likes p v := by
  constructor
  · intro h
    cases h with
    | escaped rest => exact ⟨_, rfl, rest⟩
    | char hc => exact absurd rfl hc.1
  · rintro ⟨v, rfl, rest⟩
    exact .escaped rest

theorem likes_char_iff (hc : c ≠ '\\' ∧ c ≠ '%' ∧ c ≠ '_') : Likes (c :: p) w ↔ ∃ v, w = c :: v ∧ Likes p v := by
  constructor
  · intro h
    cases h with
    | escaped => exact absurd rfl hc.1
    | any => exact absurd rfl hc.2.1
    | one => exact absurd rfl hc.2.2
    | char _ rest => exact ⟨_, rfl, rest⟩
  · rintro ⟨v, rfl, rest⟩
    exact .char hc rest

theorem likes_any (w : List Char) : Likes ['%'] w := by
  simpa using Likes.any w .nil

/-! ### Escaped texts -/

theorem escapePattern_cons (c : Char) (s : List Char) :
    escapePattern (c :: s) = (if c = '\\' ∨ c = '%' ∨ c = '_' then ['\\', c] else [c]) ++ escapePattern s := rfl

/-- **An escaped text stands for itself**, at the front of any pattern. -/
theorem likes_escapePattern_append_iff (s : List Char) :
    Likes (escapePattern s ++ p) w ↔ ∃ v, w = s ++ v ∧ Likes p v := by
  induction s generalizing w with
  | nil => simp [escapePattern]
  | cons c s ih =>
      have hfirst : Likes (escapePattern (c :: s) ++ p) w ↔ ∃ v, w = c :: v ∧ Likes (escapePattern s ++ p) v := by
        rw [escapePattern_cons]
        split
        next => exact likes_escaped_iff
        next hc => exact likes_char_iff (by simpa using hc)
      rw [hfirst]
      constructor
      · rintro ⟨v, rfl, h⟩
        obtain ⟨v, rfl, rest⟩ := ih.mp h
        exact ⟨v, rfl, rest⟩
      · rintro ⟨v, rfl, rest⟩
        exact ⟨s ++ v, rfl, ih.mpr ⟨v, rfl, rest⟩⟩

theorem likes_start_iff (s : List Char) : Likes (escapePattern s ++ ['%']) w ↔ s <+: w := by
  rw [likes_escapePattern_append_iff]
  constructor
  · rintro ⟨v, rfl, -⟩
    exact List.prefix_append s v
  · rintro ⟨v, rfl⟩
    exact ⟨v, rfl, likes_any v⟩

/-! ### The filter -/

/-- **The filter for prefixes finds prefixes.** For a value that is not null it writes one literal, and the pattern that
this literal stands for matches a text exactly if the text begins with that of the value. If the value has no text, it
fails as the value does. -/
theorem likeStart_finds_prefixes (v : Value) (hv : v ≠ .null) :
    (∀ e, v.text = .error e → Filter.likeStart.apply v = .error e) ∧
      ∀ s, v.text = .ok s → ∃ (text pattern : String), Filter.likeStart.apply v = .ok text ∧
        (∀ c : Constant, IsConstant text.toList c ↔ c = .single (.text pattern)) ∧
        ∀ w : String, Likes pattern.toList w.toList ↔ s.toList <+: w.toList := by
  have happly : Filter.likeStart.apply v = Sql.likeStart <$> v.text := by
    cases v <;> first | rfl | exact absurd rfl hv
  rw [happly]
  constructor
  · intro e he
    rw [he]
    rfl
  · intro s hs
    let pattern : List Char := escapePattern s.toList ++ ['%']
    have hconstant : IsConstant (quoteChars pattern) (.single (.text (String.ofList pattern))) :=
      .single (.text (isInside_escapeQuotes pattern))
    refine ⟨Sql.likeStart s, String.ofList pattern, by rw [hs]; rfl, fun c => ?_, fun w => ?_⟩
    · rw [Sql.likeStart, String.toList_ofList]
      constructor
      · exact fun h => h.unique hconstant
      · rintro rfl
        exact hconstant
    · rw [String.toList_ofList]
      exact likes_start_iff s.toList

/-- A text of quotes, backslashes and characters that patterns use is searched for as it is. -/
theorem likeStart_finds_prefixes_of_marks :
    Value.str "50\\%_'" ≠ .null ∧ Filter.likeStart.apply (.str "50\\%_'") = .ok "'50\\\\\\%\\_''%'" ∧
      ∃ pattern : String, (∀ c : Constant, IsConstant "'50\\\\\\%\\_''%'".toList c ↔ c = .single (.text pattern)) ∧
        ∀ w : String, Likes pattern.toList w.toList ↔ "50\\%_'".toList <+: w.toList := by
  have hv : Value.str "50\\%_'" ≠ .null := nofun
  have hprinted : Filter.likeStart.apply (.str "50\\%_'") = .ok "'50\\\\\\%\\_''%'" := by cbv
  obtain ⟨text, pattern, htext, hread, hmatches⟩ := (likeStart_finds_prefixes (.str "50\\%_'") hv).2 _ rfl
  cases hprinted.symm.trans htext
  exact ⟨hv, hprinted, pattern, hread, hmatches⟩

end SqlMapper.Sql
