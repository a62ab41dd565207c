import Mathlib.Data.List.Nodup
/-!
# SqlMapper.Proofs.Value.Entries

Entries under keys. The first entry of a key decides (`lookup_cons_ite`); if no two have the same key, each is found
(`lookup_of_mem`).
-/

namespace SqlMapper

variable {α β : Type}

/-- If no two entries have the same key, none has the key of an entry behind it. -/
theorem not_mem_keys_of_nodup {d es : List (α × β)} {e : α × β} (h : ((d ++ e :: es).map (·.1)).Nodup) :
    e.1 ∉ d.map (·.1) := by
  rw [List.map_append, List.map_cons] at h
  exact fun hmem => (List.nodup_append.mp h).2.2 e.1 hmem e.1 List.mem_cons_self rfl

variable [BEq α] [LawfulBEq α]

/-- The first entry decides, if it has the key. -/
theorem lookup_cons_ite [DecidableEq α] (a b : α) (v : β) (es : List (α × β)) :
    List.lookup a ((b, v) :: es) = if a = b then some v else es.lookup a := by
  rw [List.lookup_cons]
  by_cases h : a = b
  · simp [h]
  · simp [h, beq_eq_false_iff_ne.mpr h]

/-- What is in a mapping is found in it, if no two entries have the same key. -/
theorem lookup_of_mem {es : List (α × β)} {k : α} {v : β} (h : (es.map (·.1)).Nodup) (hmem : (k, v) ∈ es) :
    es.lookup k = some v := by
  obtain ⟨before, behind, rfl⟩ := List.append_of_mem hmem
  refine List.lookup_eq_some_iff.mpr ⟨before, behind, rfl, fun e he => ?_⟩
  rw [bne_iff_ne]
  exact fun heq => not_mem_keys_of_nodup h (List.mem_map.mpr ⟨e, he, heq.symm⟩)

end SqlMapper
