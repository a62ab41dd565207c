import Mathlib
import SqlMapper.Sql.Literal
/-!
# SqlMapper.Proofs.Sql.Integers

Which values the filter for integer literals does right by. A value should become the decimal text of its integer,
and `NULL` if it has none (`promisedInteger`). What a conversion can end in is said once (`integerOutcome`): an
integer that comes out of a text or of a float is always short enough to be written, so only an integer that a
template is given, or works out, can be too long; and a conversion fails as the filter expects except for infinities
and for values that are not there.
-/

namespace SqlMapper

namespace Number

/-! ### Integers that are short enough to be written -/

/-- An integer with no more digits than are converted between text and integer. -/
def IsShort (n : Int) : Prop := (Nat.toDigits 10 n.natAbs).length ≤ digitLimit

instance (n : Int) : Decidable (IsShort n) := inferInstanceAs (Decidable (_ ≤ _))

theorem isShort_iff {n : Int} : IsShort n ↔ n.natAbs < 10 ^ digitLimit :=
  Nat.length_toDigits_le_iff (by decide) (by decide)

theorem isShort_neg {n : Int} : IsShort (-n) ↔ IsShort n := by
  rw [IsShort, IsShort, Int.natAbs_neg]

/-- So is an integer with the sign of a number, if it is without. -/
theorem IsShort.signed {n : Nat} (h : IsShort n) (negative : Bool) : IsShort (if negative then -n else n) := by
  cases negative with
  | false => exact h
  | true => exact isShort_neg.mpr h

/-! ### Integers from texts -/

theorem digitValue?_lt {c : Char} {d : Nat} (h : Text.digitValue? c = some d) : d < 10 := by
  unfold Text.digitValue? at h
  split at h
  · split at h
    · next hdigit =>
      have hbound : c.toNat ≤ 57 := by
        have hle := (Char.isDigit_iff_toNat.mp hdigit).2
        exact hle
      have hd := Option.some.inj h
      omega
    · cases h
  · obtain ⟨z, hz, hd⟩ := Option.map_eq_some_iff.mp h
    have hrange := List.find?_some hz
    simp only [Bool.and_eq_true, decide_eq_true_eq] at hrange
    omega

theorem lt_of_mem_digitsFrom? {afterDigit : Bool} {cs : List Char} {ds : List Nat}
    (h : digitsFrom? Text.digitValue? afterDigit cs = some ds) : ∀ d ∈ ds, d < 10 := by
  induction cs generalizing afterDigit ds with
  | nil =>
      unfold digitsFrom? at h
      split at h
      · rw [← Option.some.inj h]
        exact nofun
      · cases h
  | cons c cs ih =>
      unfold digitsFrom? at h
      split at h
      · split at h
        · exact ih h
        · cases h
      · split at h
        · next d hd =>
          obtain ⟨rest, hrest, rfl⟩ := Option.map_eq_some_iff.mp h
          exact List.forall_mem_cons.mpr ⟨digitValue?_lt hd, ih hrest⟩
        · cases h

theorem valueOfDigits_concat (base : Nat) (ds : List Nat) (d : Nat) :
    valueOfDigits base (ds ++ [d]) = valueOfDigits base ds * base + d := by
  rw [valueOfDigits, List.foldl_append]
  rfl

theorem valueOfDigits_lt {base : Nat} {ds : List Nat} (h : ∀ d ∈ ds, d < base) :
    valueOfDigits base ds < base ^ ds.length := by
  induction ds using List.reverseRecOn with
  | nil => exact Nat.one_pos
  | append_singleton ds d ih =>
      have hd : d < base := h d (by simp)
      have hds := ih fun d' hd' => h d' (by simp [hd'])
      rw [valueOfDigits_concat, List.length_append, List.length_singleton, Nat.pow_succ]
      calc valueOfDigits base ds * base + d < (valueOfDigits base ds + 1) * base := by
            rw [Nat.add_mul, Nat.one_mul]
            omega
        _ ≤ base ^ ds.length * base := Nat.mul_le_mul_right base hds

/-- What is read has as many digits as were read. -/
theorem isShort_of_readInt {cs : List Char} {n : Int} (h : readInt cs = .ok n) : IsShort n := by
  unfold readInt at h
  dsimp only at h
  split at h
  · cases h
  · next ds hds =>
    split at h
    · cases h
    · next hlimit =>
      rw [← IntReading.ok.inj h]
      refine IsShort.signed (isShort_iff.mpr ?_) _
      calc valueOfDigits 10 ds < 10 ^ ds.length := valueOfDigits_lt (lt_of_mem_digitsFrom? hds)
        _ ≤ 10 ^ digitLimit := Nat.pow_le_pow_right (by decide) (by omega)

/-! ### Integers from floats -/

/-- The numbers that a finite float is made of. -/
theorem FloatShape.bounds_of_finite {x : Float} {negative : Bool} {m : Nat} {e : Int}
    (h : FloatShape.ofFloat x = .finite negative m e) : m < 2 ^ 53 ∧ e ≤ 971 := by
  unfold FloatShape.ofFloat at h
  dsimp only at h
  have hfield := Nat.mod_lt (x.toBits.toNat / twoTo 52) (show 0 < 2048 by decide)
  have hfraction : x.toBits.toNat % twoTo 52 < 2 ^ 52 := Nat.mod_lt _ (by decide)
  have htop : twoTo 52 = 2 ^ 52 := rfl
  split at h
  · split at h <;> cases h
  · split at h
    · cases h
      exact ⟨by omega, by omega⟩
    · cases h
      exact ⟨by omega, by omega⟩

theorem two_pow_lt {k : Nat} (hpos : k ≠ 0) (hk : k ≤ digitLimit) : 2 ^ k < 10 ^ digitLimit :=
  calc 2 ^ k < 10 ^ k := Nat.pow_lt_pow_left (by decide) hpos
    _ ≤ 10 ^ digitLimit := Nat.pow_le_pow_right (by decide) hk

/-- The integer part of a float is below `2 ^ 1024`. -/
theorem isShort_of_truncate? {x : Float} {n : Int} (h : truncate? x = some n) : IsShort n := by
  unfold truncate? at h
  split at h
  · next negative m e hx =>
    obtain ⟨hm, he⟩ := FloatShape.bounds_of_finite hx
    rw [← Option.some.inj h]
    refine IsShort.signed (isShort_iff.mpr ?_) negative
    have hlimit : 53 + e.toNat ≤ digitLimit := by
      have htop : e.toNat ≤ 971 := by omega
      exact Nat.le_trans (Nat.add_le_add_left htop 53) (by decide)
    calc m * twoTo e.toNat / twoTo (-e).toNat ≤ m * twoTo e.toNat := Nat.div_le_self _ _
      _ ≤ 2 ^ 53 * 2 ^ e.toNat := Nat.mul_le_mul_right _ (Nat.le_of_lt hm)
      _ = 2 ^ (53 + e.toNat) := (Nat.pow_add 2 53 e.toNat).symm
      _ < 10 ^ digitLimit := two_pow_lt (by omega) hlimit
  · cases h

end Number

namespace Sql

open Number

/-! ### Conversions -/

theorem toList_toString (n : Int) :
    (toString n).toList = if n < 0 then '-' :: Nat.toDigits 10 n.natAbs else Nat.toDigits 10 n.natAbs := by
  cases n with
  | ofNat k =>
      rw [if_neg (by simp)]
      exact Nat.toList_repr
  | negSucc k =>
      have htext : toString (Int.negSucc k) = "-" ++ (k + 1).repr := rfl
      rw [if_pos (Int.negSucc_lt_zero k), htext, String.toList_append, Nat.toList_repr]
      rfl

theorem integerText_eq (n : Int) :
    integerText n = if IsShort n then .ok (toString n) else .error (.tooManyDigits none) := by
  unfold integerText
  dsimp only
  rw [← toList_toString, String.ofList_toList]
  by_cases h : IsShort n
  · rw [if_neg (Nat.not_lt.mpr h), if_pos h]
  · rw [if_pos (Nat.not_le.mp h), if_neg h]

/-- The text of an integer is never the word for no value. -/
theorem toString_ne_null (n : Int) : toString n ≠ "NULL" := by
  intro h
  have hlist := (toList_toString n).symm.trans (congrArg String.toList h)
  split at hlist
  · exact absurd (List.cons.inj hlist).1 (by decide)
  · have hmem : 'N' ∈ Nat.toDigits 10 n.natAbs := by
      rw [hlist]
      decide
    exact absurd (Nat.isDigit_of_mem_toDigits (by decide) (by decide) hmem) (by decide)

theorem toInt_of_truncate?_eq_none {x : Float} (h : truncate? x = none) :
    (Value.float x).toInt = .error (.noIntegerValue (Number.text x)) := by
  simp only [Value.toInt, h]

/-- An infinite float fails to be converted in a way of its own. -/
theorem toInt_of_infinite {x : Float} {negative : Bool} (h : FloatShape.ofFloat x = .infinite negative) :
    (Value.float x).toInt = .error (.noIntegerValue (Number.text x)) ∧
      (Failure.noIntegerValue (Number.text x)).family = .overflow := by
  have hword : Number.text x ≠ "nan" := by
    rw [Number.text, h]
    cases negative <;> decide
  exact ⟨toInt_of_truncate?_eq_none (by rw [truncate?, h]), if_neg hword⟩

/-- A float that is no number fails as a text does that is none. -/
theorem toInt_of_nan {x : Float} (h : FloatShape.ofFloat x = .nan) :
    (Value.float x).toInt = .error (.noIntegerValue (Number.text x)) ∧
      (Failure.noIntegerValue (Number.text x)).family = .value := by
  have hword : Number.text x = "nan" := by rw [Number.text, h]
  exact ⟨toInt_of_truncate?_eq_none (by rw [truncate?, h]), if_pos hword⟩

theorem toInt_of_finite {x : Float} {negative : Bool} {m : Nat} {e : Int}
    (h : FloatShape.ofFloat x = .finite negative m e) : ∃ n, (Value.float x).toInt = .ok n ∧ IsShort n := by
  obtain ⟨n, hn⟩ : ∃ n, truncate? x = some n := by
    rw [truncate?, h]
    exact ⟨_, rfl⟩
  exact ⟨n, by simp only [Value.toInt, hn], isShort_of_truncate? hn⟩

/-! ### Integer literals -/

/-- What a value should become as an integer: the decimal text of its integer, and `NULL` if it has none. -/
def promisedInteger (v : Value) : String :=
  match v.toInt with
  | .ok n => toString n
  | .error _ => "NULL"

/-- The values that do not become what they should: infinities, values that are not there, and integers that are too
long. -/
inductive Mishandled : Value → Prop
  | infinite {x : Float} {negative : Bool} (h : FloatShape.ofFloat x = .infinite negative) : Mishandled (.float x)
  | absent (strict : Bool) (why : Missing) : Mishandled (.absent strict why)
  | long {n : Int} (h : ¬ IsShort n) : Mishandled (.int n)

/-- The failures of the filter, with the values that it fails for. -/
inductive Raises : Value → Failure → Prop
  | infinite {x : Float} {negative : Bool} (h : FloatShape.ofFloat x = .infinite negative) :
      Raises (.float x) (.noIntegerValue (Number.text x))
  | absent (strict : Bool) (why : Missing) : Raises (.absent strict why) (.missing why)

/-- What converting any other value can end in: an integer that can be written, or a failure that says that there is
none. -/
inductive Handled (v : Value) : Prop
  | short (n : Int) (converts : v.toInt = .ok n) (isShort : IsShort n)
  | none (e : Failure) (fails : v.toInt = .error e) (family : e.family = .type ∨ e.family = .value)

theorem handled_of_intOfText {v : Value} {cs : List Char} {quoted : String}
    (h : v.toInt = Value.intOfText cs quoted) : Handled v := by
  unfold Value.intOfText at h
  split at h
  · next n hread => exact .short n h (isShort_of_readInt hread)
  · exact .none _ h (.inr rfl)
  · exact .none _ h (.inr rfl)

theorem handled_float {x : Float} (h : ¬ Mishandled (.float x)) : Handled (.float x) := by
  cases hshape : FloatShape.ofFloat x with
  | nan =>
      obtain ⟨fails, family⟩ := toInt_of_nan hshape
      exact .none _ fails (.inr family)
  | infinite negative => exact absurd (.infinite hshape) h
  | finite negative m e =>
      obtain ⟨n, converts, isShort⟩ := toInt_of_finite hshape
      exact .short n converts isShort

/-- **What converting a value can end in.** -/
theorem handled_of_not_mishandled {v : Value} (h : ¬ Mishandled v) : Handled v := by
  cases v with
  | bool b => cases b <;> exact .short _ rfl (by decide)
  | int n => exact .short n rfl (not_not.mp fun hn => h (.long hn))
  | float x => exact handled_float h
  | str s => exact handled_of_intOfText rfl
  | sql s => exact handled_of_intOfText rfl
  | bytes bs =>
      cases hascii : Value.asciiText? bs with
      | none =>
          have fails : (Value.bytes bs).toInt = .error (.badInteger (Text.quotedBytes bs)) := by
            simp only [Value.toInt, hascii]
          exact .none _ fails (.inr rfl)
      | some cs =>
          have converts : (Value.bytes bs).toInt = Value.intOfText cs (Text.quotedBytes bs) := by
            simp only [Value.toInt, hascii]
          exact handled_of_intOfText converts
  | absent strict why => exact absurd (.absent strict why) h
  | _ => exact .none _ rfl (.inl rfl)

theorem integerLiteral_of_ok {v : Value} {n : Int} (h : v.toInt = .ok n) :
    integerLiteral v = .ok (if IsShort n then toString n else "NULL") := by
  have htext : integerLiteral v = orNull (integerText n) := by
    rw [integerLiteral, h]
    rfl
  rw [htext, integerText_eq]
  by_cases hn : IsShort n
  · rw [if_pos hn, if_pos hn]
    rfl
  · rw [if_neg hn, if_neg hn]
    rfl

theorem integerLiteral_of_error {v : Value} {e : Failure} (h : v.toInt = .error e) :
    integerLiteral v = if e.family = .type ∨ e.family = .value then .ok "NULL" else .error e := by
  rw [integerLiteral, h]
  rfl

theorem Handled.integerLiteral_eq {v : Value} (h : Handled v) : integerLiteral v = .ok (promisedInteger v) := by
  cases h with
  | short n converts isShort => rw [integerLiteral_of_ok converts, if_pos isShort, promisedInteger, converts]
  | none e fails family => rw [integerLiteral_of_error fails, if_pos family, promisedInteger, fails]

theorem Raises.integerLiteral_eq {v : Value} {e : Failure} (h : Raises v e) : integerLiteral v = .error e := by
  cases h with
  | infinite hshape =>
      obtain ⟨fails, family⟩ := toInt_of_infinite hshape
      rw [integerLiteral_of_error fails, family, if_neg (by decide)]
  | absent strict why => rfl

theorem integerLiteral_of_long {n : Int} (h : ¬ IsShort n) : integerLiteral (.int n) = .ok "NULL" := by
  rw [integerLiteral_of_ok rfl, if_neg h]

/-- No mishandled value becomes what it should. -/
theorem Mishandled.integerLiteral_ne {v : Value} (h : Mishandled v) : integerLiteral v ≠ .ok (promisedInteger v) := by
  cases h with
  | infinite hshape =>
      rw [(Raises.infinite hshape).integerLiteral_eq]
      exact nofun
  | absent strict why => exact nofun
  | long hlong =>
      rw [integerLiteral_of_long hlong]
      exact fun heq => toString_ne_null _ (Except.ok.inj heq).symm

/-- **Which values become what they should as integers.** They are all but the infinities, the values that are not
there, and the integers that are too long: for the former two the filter fails, and the latter are taken for values
without an integer. -/
theorem integer_literals (v : Value) :
    (Filter.integer.apply v = .ok (promisedInteger v) ↔ ¬ Mishandled v) ∧
    (∀ e, Filter.integer.apply v = .error e ↔ Raises v e) ∧
    ∀ n, v = .int n → ¬ IsShort n → Filter.integer.apply v = .ok "NULL" := by
  refine ⟨⟨fun h hv => hv.integerLiteral_ne h, fun h => (handled_of_not_mishandled h).integerLiteral_eq⟩,
    fun e => ⟨fun h => ?_, Raises.integerLiteral_eq⟩, ?_⟩
  · have hfails : integerLiteral v = .error e := h
    by_cases hv : Mishandled v
    · cases hv with
      | infinite hshape =>
          have hraises := Raises.infinite hshape
          rw [hraises.integerLiteral_eq] at hfails
          rwa [← Except.error.inj hfails]
      | absent strict why =>
          rw [← Except.error.inj hfails]
          exact .absent strict why
      | long hlong =>
          rw [integerLiteral_of_long hlong] at hfails
          cases hfails
    · rw [(handled_of_not_mishandled hv).integerLiteral_eq] at hfails
      cases hfails
  · rintro n rfl hlong
    exact integerLiteral_of_long hlong

example : Filter.integer.apply (.float (1.0 / 0.0)) = .error (.noIntegerValue "inf") := by decide

/-- A variable that is not given makes the filter fail. -/
theorem not_promisedInteger : ¬ ∀ v, Filter.integer.apply v = .ok (promisedInteger v) := by
  intro h
  have hmissing := h (.absent false (.variable "v"))
  cases hmissing

end Sql

end SqlMapper
