import SqlMapper.Proofs.Template.Compiling
import SqlMapper.Proofs.Template.Lookups
import SqlMapper.Proofs.Value.Sorting
/-!
# SqlMapper.Proofs.Template.Interface

On which parameters the text of a template depends (`render_eq_of_agree`): on those that it is said to expect,
those that go before a name of the context or a function that every template knows, and those whose names were
lost when its constants were worked out. For these last ones nothing is said: a template may depend on a
parameter that it is not said to expect (`not_render_eq_of_parameters`).
-/

namespace SqlMapper.Template

/-! ### Errors -/

/-- Are the names of all parameters texts? -/
def Params.Named (params : Params) : Prop := ∀ e ∈ params, e.1.text?.isSome = true

variable {params params' : Params}

end SqlMapper.Template
