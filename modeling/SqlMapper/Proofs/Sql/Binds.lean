import Mathlib
import SqlMapper.Proofs.Template.Parsing
import SqlMapper.Proofs.Text.Pieces
import SqlMapper.Proofs.Value.Entries
import SqlMapper.Template.Call
import SqlMapper.Template.Render
/-!
# SqlMapper.Proofs.Sql.Binds

Binds of several sequences in one statement. A bind's name is made of its sequence's name and its item's number, and
both can be read off it: the number is what stands behind the last underscore, since a number is written without
one (`bindName_inj`). So sequences of different names share no bind, whatever their names look like, and their
mappings can be laid over one another without loss (`mergedBinds_eq`, `merged_binds_complete`).
-/

namespace SqlMapper.Sql

/-! ### The names of binds -/

theorem toList_bindName (name : String) (i : Nat) :
    (bindName name i).toList = '_' :: (name.toList ++ '_' :: Nat.toDigits 10 i) := by
  simp [bindName]

/-- The name of a bind tells the name of its sequence and the number of its item. -/
theorem bindName_inj {name name' : String} {i j : Nat} :
    bindName name i = bindName name' j ↔ name = name' ∧ i = j := by
  constructor
  · intro h
    have hlists := congrArg String.toList h
    rw [toList_bindName, toList_bindName, List.cons_inj_right] at hlists
    obtain ⟨hname, hdigits⟩ :=
      Text.append_cons_inj Nat.underscore_not_in_toDigits Nat.underscore_not_in_toDigits hlists
    refine ⟨String.toList_inj.mp hname, ?_⟩
    rw [← Nat.ofDigitChars_ten_toDigits (n := i), hdigits, Nat.ofDigitChars_ten_toDigits]
  · rintro ⟨rfl, rfl⟩
    rfl

/-! ### Mappings laid over one another -/

/-- Entries under texts, as those of a mapping. -/
def textKeyed (es : List (String × Value)) : Template.Params := es.map fun (k, v) => (.str k, v)

/-- A mapping with another one laid over it. -/
def laidOver (d es : Template.Params) : Template.Params := es.foldl (fun d e => Value.insertEntry e.1 e.2 d) d

/-- The items of named sequences under the names of their binds, in one mapping. -/
def mergedBinds (lists : List (String × List Value)) : Template.Params :=
  lists.foldl (fun d l => laidOver d (textKeyed (bindMap l.1 l.2))) []

variable {d es : List (String × Value)} {lists : List (String × List Value)}

theorem insertEntry_of_new {k : String} (h : k ∉ d.map (·.1)) (v : Value) :
    Value.insertEntry (.str k) v (textKeyed d) = textKeyed (d ++ [(k, v)]) := by
  unfold textKeyed
  induction d with
  | nil => rfl
  | cons e d ih =>
      obtain ⟨l, w⟩ := e
      simp only [List.map_cons, List.mem_cons, not_or] at h
      have hne : Value.sameKey (.str k) (.str l) = false := by
        rw [Value.sameKey_str]
        exact beq_eq_false_iff_ne.mpr h.1
      rw [List.map_cons, Value.insertEntry, hne, if_neg Bool.false_ne_true, ih h.2]
      rfl

/-- Entries under different names are all kept. -/
theorem laidOver_of_nodup (h : ((d ++ es).map (·.1)).Nodup) :
    laidOver (textKeyed d) (textKeyed es) = textKeyed (d ++ es) := by
  induction es generalizing d with
  | nil => rw [List.append_nil]; rfl
  | cons e es ih =>
      have hfirst : laidOver (textKeyed d) (textKeyed (e :: es)) =
          laidOver (Value.insertEntry (.str e.1) e.2 (textKeyed d)) (textKeyed es) := rfl
      rw [hfirst, insertEntry_of_new (not_mem_keys_of_nodup h), ih (by simpa using h), List.append_assoc, List.singleton_append]

/-- All binds of named sequences, one after the other. -/
def allBinds (lists : List (String × List Value)) : List (String × Value) := lists.flatMap fun l => bindMap l.1 l.2

/-- Sequences of different names share no bind. -/
theorem nodup_allBinds (names : (lists.map (·.1)).Nodup) : ((allBinds lists).map (·.1)).Nodup := by
  unfold allBinds
  simp only [List.map_flatMap, map_fst_bindMap]
  refine List.nodup_flatMap.mpr ⟨fun l _ => ?_, ?_⟩
  · exact List.nodup_range.map fun i j h => (bindName_inj.mp h).2
  · refine (List.pairwise_map.mp names).imp fun {l l'} hne => ?_
    intro key hkey hkey'
    obtain ⟨i, -, rfl⟩ := List.mem_map.mp hkey
    obtain ⟨j, -, hj⟩ := List.mem_map.mp hkey'
    exact hne (bindName_inj.mp hj).1.symm

/-- Merging puts them one after the other, and replaces none. -/
theorem mergedBinds_eq (names : (lists.map (·.1)).Nodup) : mergedBinds lists = textKeyed (allBinds lists) := by
  induction lists using List.reverseRecOn with
  | nil => rfl
  | append_singleton lists l ih =>
      have hall : allBinds (lists ++ [l]) = allBinds lists ++ bindMap l.1 l.2 := by
        simp [allBinds]
      have hkeys := nodup_allBinds names
      rw [List.map_append] at names
      rw [mergedBinds, List.foldl_concat, ← mergedBinds, ih (List.nodup_append.mp names).1, hall]
      exact laidOver_of_nodup (by rwa [hall] at hkeys)

theorem length_allBinds (lists : List (String × List Value)) :
    (allBinds lists).length = (lists.map fun l => l.2.length).sum := by
  simp [allBinds, List.length_flatMap]

theorem param?_mergedBinds (names : (lists.map (·.1)).Nodup) {l : String × List Value} (hl : l ∈ lists)
    {e : String × Value} (he : e ∈ bindMap l.1 l.2) : Template.param? (mergedBinds lists) e.1 = some e.2 := by
  rw [mergedBinds_eq names]
  refine (Value.lookup?_str e.1 (allBinds lists)).trans ?_
  exact lookup_of_mem (nodup_allBinds names) (List.mem_flatMap.mpr ⟨l, hl, he⟩)

/-! ### Placeholders -/

/-- The placeholders of a sequence are the names of its binds, each behind a colon. -/
theorem bindList_eq (sep name : String) (xs : List Value) :
    bindList sep name xs.length = String.intercalate sep ((bindMap name xs).map fun e => ":" ++ e.1) := by
  have hkeys : (bindMap name xs).map (fun e => ":" ++ e.1) =
      ((bindMap name xs).map (·.1)).map fun key => ":" ++ key := by
    rw [List.map_map]
    rfl
  rw [hkeys, map_fst_bindMap, List.map_map]
  rfl

theorem getElem?_bindMap (name : String) (xs : List Value) (i : Nat) :
    (bindMap name xs)[i]? = xs[i]?.map fun x => (bindName name i, x) := by
  simp [bindMap, List.getElem?_zipIdx, Function.comp_def]

open Template in
/-- What a template is given that asks for the placeholders of a sequence, and for its binds. -/
theorem run_callBuiltIn_binds {seq : Value} {xs : List Value} {s s' : Template.Store}
    (hitems : (Template.Store.items seq).run s = .ok (xs, s')) (sep name : String) :
    (callBuiltIn .bindList { positional := [seq, .str sep, .str name] }).run s =
        .ok (.sql (bindList sep name xs.length), s') ∧
      (callBuiltIn .bindMap { positional := [seq, .str name] }).run s =
        .ok (.dict (textKeyed (bindMap name xs)), s') := by
  constructor
  · have hitems' : (helperItems (some (.str sep)) seq).run s = .ok (xs, s') := hitems
    refine Eq.trans (run_bind_ok (a := [seq, .str sep, .str name]) rfl) ?_
    refine (run_bind_ok hitems').trans ?_
    cases xs <;> rfl
  · have hitems' : (helperItems none seq).run s = .ok (xs, s') := hitems
    refine Eq.trans (run_bind_ok (a := [seq, .str name]) rfl) ?_
    refine (run_bind_ok hitems').trans ?_
    cases xs <;> rfl

open Template in
/-- **Binds never collide, and none goes missing.** When the mappings of sequences with different names are laid over
one another, every item keeps a bind of its own: there are as many as all sequences have items. The placeholders
of a sequence, whatever value it is the items of, are the names of its binds in order, each behind a colon, with the
separator in between; and under the name of each the merged mapping has the item at its place. -/
theorem merged_binds_complete (lists : List (String × List Value)) (names : (lists.map (·.1)).Nodup) :
    (mergedBinds lists).length = (lists.map fun l => l.2.length).sum ∧
    ((mergedBinds lists).map (·.1)).Nodup ∧
    ∀ name xs, (name, xs) ∈ lists →
      (∀ (seq : Value) (sep : String) (s s' : Template.Store), (Template.Store.items seq).run s = .ok (xs, s') →
        (callBuiltIn .bindList { positional := [seq, .str sep, .str name] }).run s =
          .ok (.sql (String.intercalate sep ((bindMap name xs).map fun e => ":" ++ e.1)), s') ∧
        (callBuiltIn .bindMap { positional := [seq, .str name] }).run s =
          .ok (.dict (textKeyed (bindMap name xs)), s')) ∧
      (bindMap name xs).length = xs.length ∧
      ∀ (i : Nat) (key : String) (v : Value), (bindMap name xs)[i]? = some (key, v) →
        xs[i]? = some v ∧ param? (mergedBinds lists) key = some v := by
  refine ⟨?_, ?_, fun name xs hmem => ⟨fun seq sep s s' hitems => ?_, length_bindMap name xs, fun i key v hi => ?_⟩⟩
  · rw [mergedBinds_eq names, textKeyed, List.length_map, length_allBinds]
  · have hkeys : (textKeyed (allBinds lists)).map (·.1) = ((allBinds lists).map (·.1)).map Value.str := by
      simp [textKeyed]
    rw [mergedBinds_eq names, hkeys]
    exact (nodup_allBinds names).map fun a b h => Value.str.inj h
  · rw [← bindList_eq]
    exact run_callBuiltIn_binds hitems sep name
  · have hparam := param?_mergedBinds names hmem (List.mem_of_getElem? hi)
    rw [getElem?_bindMap, Option.map_eq_some_iff] at hi
    obtain ⟨x, hx, he⟩ := hi
    rw [hx, (Prod.mk.inj he).2]
    exact ⟨rfl, hparam⟩

/-- Names that end like the binds of one another. -/
def nestedNames : List (String × List Value) := [("id", [.int 7, .int 8]), ("id_1", [.str "x"]), ("", [.null])]

theorem merged_binds_complete_of_nestedNames :
    (nestedNames.map (·.1)).Nodup ∧ (mergedBinds nestedNames).length = 4 ∧
      Template.param? (mergedBinds nestedNames) "_id_1" = some (.int 8) ∧
      Template.param? (mergedBinds nestedNames) "_id_1_0" = some (.str "x") := by
  have names : (nestedNames.map (·.1)).Nodup := by decide
  obtain ⟨hlength, -, hbinds⟩ := merged_binds_complete nestedNames names
  obtain ⟨-, -, hid⟩ := hbinds "id" [.int 7, .int 8] (by simp [nestedNames])
  obtain ⟨-, -, hid_1⟩ := hbinds "id_1" [.str "x"] (by simp [nestedNames])
  exact ⟨names, hlength, (hid 1 "_id_1" (.int 8) rfl).2, (hid_1 0 "_id_1_0" (.str "x") rfl).2⟩

end SqlMapper.Sql
