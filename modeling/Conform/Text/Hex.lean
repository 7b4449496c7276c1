import Conform.Fault
import Conform.Text.Character
import Conform.Text.Quoted

/-! Bytes written as hexadecimal digits, two for each byte. Blanks may stand between the pairs. -/

namespace Conform
set_option autoImplicit false

namespace Hex

def isDigit (c : Char) : Bool := c.isDigit || ('a' ≤ c && c ≤ 'f') || ('A' ≤ c && c ≤ 'F')

/-- The value of a digit. -/
def value (c : Char) : Nat :=
  if c.isDigit then c.toNat - 48 else if 'a' ≤ c then c.toNat - 87 else c.toNat - 55

/-- The value of several digits. -/
def number (cs : List Char) : Nat := cs.foldl (fun n c => 16 * n + value c) 0

def ofBytes (bs : List UInt8) : String := String.ofList (bs.flatMap fun b => Quoted.hex 2 b.toNat)

/-- There is no digit at a place where there has to be one. -/
def wrong (place : Nat) : Fault := .complaint .value
  ("non-hexadecimal number found in fromhex() arg at position " ++ toString place)

/-- The bytes of a text that begins at a place. -/
def toBytesAt (place : Nat) : List Char → Except Fault (List UInt8)
  | [] => .ok []
  | a :: r =>
    if isAsciiBlank a then toBytesAt (place + 1) r
    else if !isDigit a then .error (wrong place)
    else match r with
      | b :: r =>
        if isDigit b then do .ok (UInt8.ofNat (number [a, b]) :: (← toBytesAt (place + 2) r))
        else .error (wrong (place + 1))
      | [] => .error (wrong (place + 1))

def toBytes (s : String) : Except Fault (List UInt8) := toBytesAt 0 s.toList

example : number ['1', 'f'] = 31 ∧ number ['A', '0'] = 160 := by decide

end Hex
end Conform
