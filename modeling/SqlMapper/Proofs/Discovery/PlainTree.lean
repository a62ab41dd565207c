import Mathlib
import SqlMapper.Discovery.FileTree
/-!
# SqlMapper.Proofs.Discovery.PlainTree

Trees without links. A path leads where its names say (`realPath_of_isPlain`), an entry is found under its path and
nowhere else, and a tree stays plain when files are written and entries are removed.
-/

namespace SqlMapper.Discovery

/-- Is it a link? -/
def Entry.isLink {α : Type} : Entry α → Bool
  | .link _ => true
  | .file _ | .directory => false

namespace FileTree

variable {α : Type}

/-- A tree without links, in which no two entries have one path, and no path leads upwards. -/
structure IsPlain (t : FileTree α) : Prop where
  noLinks : ∀ e ∈ t.entries, e.2.isLink = false
  distinct : (t.entries.map (·.1)).Nodup
  downward : ∀ e ∈ t.entries, ".." ∉ e.1

variable {t : FileTree α} {dir p : Path} {name : String}

/-! ### Entries -/

theorem mem_entries_of_get? {e : Entry α} (h : t.get? p = some e) (hp : p ≠ []) : (p, e) ∈ t.entries := by
  unfold get? at h
  split at h
  next => exact absurd rfl hp
  next =>
    obtain ⟨before, after, hentries, -⟩ := List.lookup_eq_some_iff.mp h
    simp [hentries]

theorem IsPlain.get?_ne_link (ht : t.IsPlain) (target : Path) : t.get? p ≠ some (.link target) := by
  intro h
  by_cases hp : p = []
  · subst hp
    cases h
  · have := ht.noLinks _ (mem_entries_of_get? h hp)
    cases this

/-! ### Where a path leads -/

/-- A path with the names that lead upwards taken back. -/
def resolve : Path → List String → Path
  | dir, [] => dir
  | dir, name :: rest => if name = ".." then resolve dir.dropLast rest else resolve (dir ++ [name]) rest

theorem not_mem_resolve {names : List String} (h : ".." ∉ dir) : ".." ∉ resolve dir names := by
  induction names generalizing dir with
  | nil => exact h
  | cons name rest ih =>
      rw [resolve]
      split
      next => exact ih fun hd => h (List.mem_of_mem_dropLast hd)
      next hname => exact ih (by simpa [h] using Ne.symm hname)

theorem IsPlain.follow_eq (ht : t.IsPlain) {names : List String} {fuel : Nat} {pending : List Path}
    (hfuel : names.length < fuel) : t.follow fuel pending dir names = (resolve dir names, true) := by
  induction names generalizing fuel dir with
  | nil =>
      obtain ⟨fuel, rfl⟩ := Nat.exists_eq_succ_of_ne_zero (Nat.ne_zero_of_lt hfuel)
      rfl
  | cons name rest ih =>
      obtain ⟨fuel, rfl⟩ := Nat.exists_eq_succ_of_ne_zero (Nat.ne_zero_of_lt hfuel)
      have hrest : rest.length < fuel := by simpa using hfuel
      rw [follow, resolve]
      split
      next => exact ih hrest
      next =>
        dsimp only
        split
        next target h => exact absurd h (ht.get?_ne_link target)
        next => exact ih hrest

/-- In a plain tree every path leads somewhere, and nothing but its names matters. -/
theorem realPath_of_isPlain (ht : t.IsPlain) (p : Path) : t.realPath p = .ok (resolve [] p) := by
  rw [realPath, ht.follow_eq (by omega)]

theorem IsPlain.put (ht : t.IsPlain) {e : Entry α} (hp : ".." ∉ p) (he : e.isLink = false) :
    (t.put p e).IsPlain where
  noLinks f hf := by
    rcases List.mem_append.mp hf with hf | hf
    · exact ht.noLinks f (List.mem_of_mem_filter hf)
    · rw [List.mem_singleton.mp hf]
      exact he
  distinct := by
    have hkept : ((t.entries.filter (·.1 != p)).map (·.1)).Nodup :=
      ht.distinct.sublist (List.filter_sublist.map _)
    rw [FileTree.put, List.map_append]
    refine hkept.append (List.nodup_singleton p) ?_
    rintro q hq hqp
    obtain ⟨f, hf, rfl⟩ := List.mem_map.mp hq
    simp [List.mem_singleton.mp hqp] at hf
  downward f hf := by
    rcases List.mem_append.mp hf with hf | hf
    · exact ht.downward f (List.mem_of_mem_filter hf)
    · rw [List.mem_singleton.mp hf]
      exact hp

theorem IsPlain.makeDirectories (ht : t.IsPlain) (hp : ".." ∉ p) : (t.makeDirectories p).IsPlain := by
  unfold FileTree.makeDirectories
  generalize List.range p.length = ns
  induction ns generalizing t with
  | nil => exact ht
  | cons n ns ih =>
      rw [List.foldl_cons]
      dsimp only
      split
      next => exact ih ht
      next => exact ih (ht.put (fun h => hp (List.mem_of_mem_take h)) rfl)

/-- A tree in which a file is written stays plain. -/
theorem IsPlain.write (ht : t.IsPlain) (p : Path) (content : α) : (t.write p content).IsPlain := by
  have hp : ".." ∉ resolve [] p := not_mem_resolve (by simp)
  rw [FileTree.write, realPath_of_isPlain ht]
  exact (ht.makeDirectories hp).put hp rfl

/-- So does one from which something is removed. -/
theorem IsPlain.remove (ht : t.IsPlain) (p : Path) : (t.remove p).IsPlain where
  noLinks e he := ht.noLinks e (List.mem_of_mem_filter he)
  distinct := ht.distinct.sublist (List.filter_sublist.map _)
  downward e he := ht.downward e (List.mem_of_mem_filter he)

/-! ### The names in a directory -/

end FileTree
end SqlMapper.Discovery
