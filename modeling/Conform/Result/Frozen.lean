import Conform.Fault
import Conform.Text.Quoted
import Conform.Value.Text

/-! Records that do not change: schemas, results, application errors and their contexts. What is
known of such a record here is the names of its fields. -/

namespace Conform
set_option autoImplicit false

/-- All parts of a form, those that are not shown included. -/
def Form.parts : Form → List String
  | .predicate => ["test_fn", "failure_fn"]
  | form => form.fieldNames

namespace Frozen

/-- A kind of record, by its fields. -/
structure Record where
  fields : List String

def schema (form : Form) : Record := ⟨form.parts⟩
def success : Record := ⟨["value"]⟩
def failure : Record := ⟨["error"]⟩
def appError : Record := ⟨["code", "message", "context", "metadata", "cause"]⟩
def context : Record := ⟨["correlation_id", "timestamp", "origin"]⟩

/-- Why an assignment is refused: a field is frozen, and another name does not suit. -/
def Record.refusal (r : Record) (name : String) : Fault :=
  if r.fields.contains name then .frozenField (quoted name) else .mismatch

end Frozen
end Conform
