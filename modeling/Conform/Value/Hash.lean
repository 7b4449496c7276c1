import Conform.Value.Equality

/-! Which values can be keys: those that cannot change. Lists, dictionaries and mappings cannot be
keys, and neither can what has one of them for a part, nor a signaling decimal. -/

namespace Conform
set_option autoImplicit false

def Atom.hashable : Atom → Bool
  | .decimal _ (.nan _ true _) => false
  | _ => true

namespace Value

mutual

def hashable : Value → Bool
  | .atom a => a.hashable
  | .symbol .. | .object .. => true
  | .list .. | .dict .. | .mapping .. => false
  | .tuple _ xs => allHashable xs
  | .schema _ _ parts => allHashable parts

def allHashable : List Value → Bool
  | [] => true
  | x :: xs => hashable x && allHashable xs

end

/-- A value that is to be a key. -/
def asKey (v : Value) : Except Fault Value := if v.hashable then .ok v else .error .mismatch

end Value

/-- Entries one after the other, provided that every key can be one. -/
def Entries.ofKeyed : List (Value × Value) → Except Fault Entries := fun es => do
  let keyed ← es.mapM fun e => do .ok (← e.1.asKey, e.2)
  .ok (.ofList keyed)

end Conform
