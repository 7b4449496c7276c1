import Conform.Result.AppError
import Conform.Schema.Test
import Conform.Schema.Describe

/-! Admission of values by a schema. A value is tested once, and described only if the test was
made and failed. `parse` refuses what is not admitted, `tryParse` answers with a result. -/

namespace Conform
set_option autoImplicit false

/-- Why a value was not admitted. -/
inductive Refusal where
  | fault (fault : Fault)
  /-- The value was tested and does not belong; the message describes why. -/
  | rejected (message : Value)

/-- A rejection shows itself as a record of its message. -/
def Refusal.repr (message : Value) : Except Fault String := do
  .ok ("ValidationError(" ++ fieldText "message" (← message.repr) ++ ")")

/-- Rejections are equal if their messages are. -/
def Refusal.sameMessage (m n : Value) : Except Fault Bool :=
  if m = n then .ok true else m.equals n

namespace Schema

variable (env : Env) (s : Schema)

def parse (v : Value) : Run Refusal Value := do
  if ← (s.test env v).mapError .fault then pure v
  else do
    let message ← (s.describe env v).mapError .fault
    Run.fail (.rejected message)

/-- Admission of a value of which nothing is known. -/
def parseUnknown (v : Value) : Run Refusal Value := s.parse env v

/-- A rejection becomes a failed result that keeps it as its cause; a fault stays a fault. -/
def tryParse (v : Value) : Run Fault (Result AppError Value) :=
  let run := s.parseUnknown env v
  { outcome := match run.outcome with
      | .ok a => .ok (.ok a)
      | .error (.rejected message) => .ok (.err (.ofRejection message (.str "")))
      | .error (.fault fault) => .error fault
    calls := run.calls }

end Schema
end Conform
