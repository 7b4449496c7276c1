import Conform.Value.Call
import Conform.Text.Character

/-! Redaction of events. In dictionaries, reached through dictionaries and lists with at most
five containers around them, the value under a sensitive key is replaced. -/

namespace Conform
set_option autoImplicit false

namespace Redaction

def sensitiveKeys : List String :=
  ["password", "token", "secret", "authorization", "cookie", "hashed_password"]

def isSensitive (name : String) : Bool := sensitiveKeys.contains (Case.lower name)

def marker : Value := .str "[REDACTED]"

/-- Containers with more containers around them are left as they are. -/
def maxDepth : Nat := 5

mutual

/-- Redaction of a value that has `depth` containers around it. -/
def redactAt (depth : Nat) : Value → Except Fault Value
  | .dict tag es =>
    if maxDepth < depth then .ok (.dict tag es)
    else (redactEntries depth es).map (.dict tag)
  | .list tag xs =>
    if maxDepth < depth then .ok (.list tag xs)
    else (redactItems depth xs).map (.list tag)
  | v => .ok v

def redactEntries (depth : Nat) : List (Value × Value) → Except Fault (List (Value × Value))
  | [] => .ok []
  | (k, v) :: es => do
    let name ← k.text
    let w ← if isSensitive name then .ok marker else redactAt (depth + 1) v
    let rest ← redactEntries depth es
    .ok ((k, w) :: rest)

def redactItems (depth : Nat) : List Value → Except Fault (List Value)
  | [] => .ok []
  | x :: xs => do
    let y ← redactAt (depth + 1) x
    let ys ← redactItems depth xs
    .ok (y :: ys)

end

def redact (event : Value) : Except Fault Value := redactAt 0 event

end Redaction

/-! ## Library information -/

def addLibraryEntries (es : Entries) : Entries :=
  (es.setDefault (.str "library") (.str Release.name)).setDefault (.str "version")
    (.str Release.version)

/-- An event tells name and version of the library, unless it already has such entries. Another
value may offer to take entries, but nothing that it offers accepts these. -/
def addLibrary : Value → Except Fault Value
  | .dict tag es => .ok (.dict tag (addLibraryEntries es))
  | v => do
    let offered ← v.attributeNamed "setdefault"
    offered.call [.str "library", .str Release.name]

end Conform
