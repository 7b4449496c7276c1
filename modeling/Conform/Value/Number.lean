import Conform.Value.Basic

/-! Values as numbers of a certain sort: the integer left when a fraction is dropped, the integer
that a value is, the float next to it; and powers of integers. -/

namespace Conform
set_option autoImplicit false

namespace Value

/-- A number without its fraction. -/
def wholePart (v : Value) : Except Fault Int :=
  match v.number? with
  | none => .error .mismatch
  | some (.int n) => .ok n
  | some (.float x) =>
    match x.unpack with
    | .nan => .error (.unconvertible "float NaN" "integer")
    | .infinite _ => .error (.infiniteInteger "float infinity")
    | .finite negative m e => .ok (Scaled.ofBinary negative m e).truncate
  | some (.decimal (.nan ..)) => .error (.unconvertible "NaN" "integer")
  | some (.decimal (.infinite _)) => .error (.infiniteInteger "Infinity")
  | some (.decimal (.finite negative c e)) => .ok (Scaled.ofDecimal negative c e).truncate

/-- An integer, and nothing that would have to be rounded. -/
def integer (v : Value) : Except Fault Int :=
  match v.number? with
  | some (.int n) => .ok n
  | _ => .error .mismatch

def float (v : Value) : Except Fault Binary64 :=
  match v.number? with
  | none => .error .mismatch
  | some (.int n) =>
    match Binary64.ofInt? n with
    | some x => .ok x
    | none => .error .floatTooLarge
  | some (.float x) => .ok x
  | some (.decimal (.nan _ true _)) => .error (.unconvertible "signaling NaN" "float")
  | some (.decimal (.nan _ false _)) => .ok .nan
  | some (.decimal (.infinite negative)) => .ok (.infinity negative)
  | some (.decimal (.finite negative c e)) => .ok (.ofScientific ⟨negative, c, e⟩)

/-- A power of integers; a negative exponent leads to a float. -/
def power (b e : Int) : Except Fault Value :=
  if 0 ≤ e then .ok (.int (Int.pow b e.toNat))
  else if b = 0 then .error .zeroPower
  else match Binary64.ofInt? b with
    | none => .error .floatTooLarge
    | some _ =>
      .ok (.atom (.float 0 (.nearest (b < 0 && e % 2 != 0) 1 (Nat.pow b.natAbs e.natAbs))))

end Value
end Conform
