/-! Decoding of UTF-8. Bytes that are no part of a well-formed sequence are replaced: the longest
beginning of a sequence gives one replacement character. -/

namespace Conform
set_option autoImplicit false

namespace Utf8

def replacement : Char := Char.ofNat 0xFFFD

/-- How many bytes follow a leading byte, and the range of the first of them. -/
def follow? (b : Nat) : Option (Nat × Nat × Nat) :=
  if 0xC2 ≤ b && b ≤ 0xDF then some (1, 0x80, 0xBF)
  else if b = 0xE0 then some (2, 0xA0, 0xBF)
  else if b = 0xED then some (2, 0x80, 0x9F)
  else if 0xE1 ≤ b && b ≤ 0xEF then some (2, 0x80, 0xBF)
  else if b = 0xF0 then some (3, 0x90, 0xBF)
  else if 0xF1 ≤ b && b ≤ 0xF3 then some (3, 0x80, 0xBF)
  else if b = 0xF4 then some (3, 0x80, 0x8F)
  else none

def leadBits (b : Nat) : Nat :=
  if b ≤ 0xDF then b % 32 else if b ≤ 0xEF then b % 16 else b % 8

/-- A sequence under way: bytes still due, range of the next one, bits so far. -/
structure Pending where
  due : Nat
  low : Nat
  high : Nat
  bits : Nat

/-- A byte that begins something new. -/
def start (b : Nat) : List Char × Option Pending :=
  if b < 0x80 then ([Char.ofNat b], none)
  else match follow? b with
    | some (due, low, high) => ([], some ⟨due, low, high, leadBits b⟩)
    | none => ([replacement], none)

def step (pending : Option Pending) (b : Nat) : List Char × Option Pending :=
  match pending with
  | none => start b
  | some p =>
    if p.low ≤ b && b ≤ p.high then
      let bits := p.bits * 64 + b % 64
      if p.due ≤ 1 then ([Char.ofNat bits], none) else ([], some ⟨p.due - 1, 0x80, 0xBF, bits⟩)
    else
      let (cs, next) := start b
      (replacement :: cs, next)

def decodeFrom (pending : Option Pending) : List UInt8 → List Char
  | [] => if pending.isSome then [replacement] else []
  | b :: bs =>
    let (cs, next) := step pending b.toNat
    cs ++ decodeFrom next bs

def decode (bs : List UInt8) : String := String.ofList (decodeFrom none bs)

end Utf8
end Conform
