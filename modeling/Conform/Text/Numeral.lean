import Conform.Fault
import Conform.Numeric.Decimal
import Conform.Text.Character
import Conform.Text.Quoted

/-! Integers written as text, up to a limit on the number of digits, and numbers read from text:
digits of any script count as digits, blanks around a number do not matter, and underscores may
stand between digits. -/

namespace Conform
set_option autoImplicit false

/-! ## Integers as text -/

/-- An integer with more digits than this has no text. -/
def digitLimit : Nat := 4300

/-- The least number that is too long. -/
def integerLimit : Nat := Nat.pow 10 digitLimit

def integerText (n : Int) : Except Fault String :=
  if n.natAbs < integerLimit then .ok (toString n) else .error .tooManyDigits

namespace Numeral

/-! ## Digits of any script -/

/-- The code points of zero; in every script the other digits follow in order. -/
def zeros : List Nat :=
  [0x30, 0x660, 0x6F0, 0x7C0, 0x966, 0x9E6, 0xA66, 0xAE6, 0xB66, 0xBE6, 0xC66, 0xCE6, 0xD66, 0xDE6,
    0xE50, 0xED0, 0xF20, 0x1040, 0x1090, 0x17E0, 0x1810, 0x1946, 0x19D0, 0x1A80, 0x1A90, 0x1B50,
    0x1BB0, 0x1C40, 0x1C50, 0xA620, 0xA8D0, 0xA900, 0xA9D0, 0xA9F0, 0xAA50, 0xABF0, 0xFF10, 0x104A0,
    0x10D30, 0x11066, 0x110F0, 0x11136, 0x111D0, 0x112F0, 0x11450, 0x114D0, 0x11650, 0x116C0,
    0x11730, 0x118E0, 0x11950, 0x11C50, 0x11D50, 0x11DA0, 0x16A60, 0x16AC0, 0x16B50, 0x1D7CE,
    0x1D7D8, 0x1D7E2, 0x1D7EC, 0x1D7F6, 0x1E140, 0x1E2F0, 0x1E950, 0x1FBF0]

/-- The same digit in ASCII, other characters as they are. -/
def asciiDigit (c : Char) : Char :=
  match zeros.find? fun z => z ≤ c.toNat && c.toNat < z + 10 with
  | some z => Char.ofNat ('0'.toNat + (c.toNat - z))
  | none => c

def isAscii (c : Char) : Bool := c.toNat < 128

/-- Beyond ASCII a blank becomes a space, and a digit the same digit in ASCII. -/
def plain (cs : List Char) : List Char :=
  cs.map fun c => if !isAscii c && isBlank c then ' ' else asciiDigit c

/-! ## Underscores -/

/-- Without the underscores, each of which has to stand between two digits. -/
def ungroup? (afterDigit : Bool) : List Char → Option (List Char)
  | [] => some []
  | '_' :: c :: r =>
    if afterDigit && c.isDigit then (ungroup? true r).map (c :: ·) else none
  | '_' :: [] => none
  | c :: r => (ungroup? c.isDigit r).map (c :: ·)

end Numeral

/-! ## Integers -/

/-- The beginning of a text, as far as a complaint quotes it. -/
def quotedStart (text : String) : String := String.ofList (text.toList.take 200)

/-- The integer in a text. Complaints quote the text as it is `shown`, or count the digits of one
that is too long, whatever follows these. -/
def readInteger (shown : String) (text : List Char) : Except Fault Int :=
  let (negative, r) := Scientific.splitSign (stripped isAsciiBlank text)
  let inNumber (c : Char) : Bool := c.isDigit || c == '_'
  match Numeral.ungroup? false (r.takeWhile inNumber) with
  | none | some [] => .error (.notAnInteger (quotedStart shown))
  | some ds =>
    if digitLimit < ds.length then .error (.tooManyDigitsRead ds.length)
    else if (r.dropWhile inNumber).isEmpty then
      let n := Scientific.digitsValue ds
      .ok (if negative then -n else n)
    else .error (.notAnInteger (quotedStart shown))

def integerOfText (text : String) : Except Fault Int :=
  readInteger (quoted text) (Numeral.plain text.toList)

/-- Bytes are read as characters; those beyond ASCII are in no number. -/
def integerOfBytes (data : List UInt8) : Except Fault Int :=
  readInteger (quotedBytes data) (data.map fun b => Char.ofNat b.toNat)

/-! ## Floats and decimals -/

def floatOfText (text : String) : Except Fault Binary64 :=
  let read := (Numeral.ungroup? false (stripped isAsciiBlank (Numeral.plain text.toList))).bind
    fun cs => Binary64.ofText? (String.ofList cs)
  match read with
  | some x => .ok x
  | none => .error (.notAFloat (quoted text))

/-- Decimals have their own limits, far beyond those of results. -/
def Decimal.inReach : Decimal → Bool
  | .finite _ c e =>
    let top : Int := 999999999999999999
    e ≤ top && e + (toString c).length - 1 ≤ top && -1999999999999999997 ≤ e
  | _ => true

/-- Underscores are ignored wherever they stand. -/
def decimalOfText (text : String) : Except Fault Decimal :=
  let cs := (stripped isBlank text.toList).map Numeral.asciiDigit
  match Decimal.ofText? (String.ofList (cs.filter (· != '_'))) with
  | none => .error .notADecimal
  | some d => if d.inReach then .ok d else .error .invalidDecimal

end Conform
