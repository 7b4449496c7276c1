import Conform.Value.Number
import Conform.Value.Text

/-! Directives: how one argument is written into a text, or into bytes. A directive has a style,
which says how to fill up to a width, and a conversion, one character that says what is written: a
text, an integer in some base, a character, or a float with a fixed or a floating point. -/

namespace Conform
set_option autoImplicit false

namespace Template

/-! ## Media -/

/-- What is written: a text, or bytes, which stand as the first 256 characters. -/
inductive Medium where
  | text
  | bytes
  deriving DecidableEq

namespace Medium

def charsOf (data : List UInt8) : List Char := data.map fun b => Char.ofNat b.toNat
def bytesOf (cs : List Char) : List UInt8 := cs.map fun c => UInt8.ofNat c.toNat

/-- What was written, as a value. -/
def value (cs : List Char) : Medium → Value
  | text => .str (String.ofList cs)
  | bytes => .atom (.bytes 0 (bytesOf cs))

end Medium

/-! ## Styles -/

structure Style where
  /-- Filled on the right. -/
  left : Bool
  /-- A sign in front of every number. -/
  plus : Bool
  /-- A blank in front of a number without a sign. -/
  blank : Bool
  /-- Bases are marked, points and zeros are kept. -/
  alternate : Bool
  /-- Numbers are filled with zeros. -/
  zeros : Bool
  /-- No sign in front of a float that is written as zero. -/
  unsignedZero : Bool
  width : Nat
  precision : Option Nat

namespace Style

def justify (s : Style) (cs : List Char) : List Char :=
  let fill := List.replicate (s.width - cs.length) ' '
  if s.left then cs ++ fill else fill ++ cs

/-- At most as many characters as the precision says. -/
def text (s : Style) (cs : List Char) : List Char :=
  s.justify (match s.precision with
    | some p => cs.take p
    | none => cs)

def sign (s : Style) (negative : Bool) : List Char :=
  if negative then ['-'] else if s.plus then ['+'] else if s.blank then [' '] else []

/-- A sign, the mark of a base and digits; zeros go between mark and digits. -/
def number (s : Style) (negative : Bool) (mark digits : List Char) : List Char :=
  let front := s.sign negative ++ mark
  if s.zeros && !s.left then
    front ++ Layout.zeros (s.width - front.length - digits.length) ++ digits
  else s.justify (front ++ digits)

/-- At least as many digits as the precision says. -/
def integer (s : Style) (negative : Bool) (mark digits : List Char) : List Char :=
  s.number negative mark (Layout.zeros (s.precision.getD 0 - digits.length) ++ digits)

end Style

/-! ## Rounded digits of a quotient -/

/-- A point before the fraction; a point without one only if it is kept. -/
def pointed (keep : Bool) (whole fraction : List Char) : List Char :=
  if fraction.isEmpty && !keep then whole else whole ++ '.' :: fraction

/-- `places` digits behind the point. -/
def fixed (keep : Bool) (places num den : Nat) : List Char :=
  let ds := Layout.padded (places + 1) (Binary64.roundHalfEven (num * Nat.pow 10 places) den)
  pointed keep (ds.take (ds.length - places)) (ds.drop (ds.length - places))

/-- The decimal exponent after rounding to `places + 1` digits, and those digits. -/
def significant (places num den : Nat) : Int × Nat :=
  if num = 0 then (0, 0)
  else
    let near : Int := (toString num).length - (toString den).length
    let e := if den * Nat.pow 10 near.toNat ≤ num * Nat.pow 10 (-near).toNat then near else near - 1
    let shift := (places : Int) - e
    let ds := Binary64.roundHalfEven (num * Nat.pow 10 shift.toNat)
      (den * Nat.pow 10 (-shift).toNat)
    if Nat.pow 10 (places + 1) ≤ ds then (e + 1, ds / 10) else (e, ds)

/-- An exponent has a sign and at least two digits. -/
def exponent (mark : Char) (e : Int) : List Char :=
  mark :: (if e < 0 then '-' else '+') :: Layout.padded 2 e.natAbs

def exponential (mark : Char) (keep : Bool) (places num den : Nat) : List Char :=
  let (e, n) := significant places num den
  let ds := Layout.padded (places + 1) n
  pointed keep (ds.take 1) (ds.drop 1) ++ exponent mark e

/-- No zeros at the end of a fraction. -/
def trimmed (cs : List Char) : List Char :=
  if cs.contains '.' then
    ((cs.reverse.dropWhile (· == '0')).dropWhile (· == '.')).reverse
  else cs

/-- Positional for decimal exponents from -4 up to the precision, with an exponent otherwise. -/
def general (mark : Char) (keep : Bool) (precision num den : Nat) : List Char :=
  let p := max precision 1
  let (e, n) := significant (p - 1) num den
  let tidy (cs : List Char) : List Char := if keep then cs else trimmed cs
  if -4 ≤ e && e < p then tidy (fixed keep ((p : Int) - 1 - e).toNat num den)
  else
    let ds := Layout.padded p n
    tidy (ds.take 1 ++ '.' :: ds.drop 1) ++ exponent mark e

/-- The text of a float without its sign; words for what is no finite number. -/
def magnitude (conversion : Char) (s : Style) (x : Binary64) : List Char :=
  let places := s.precision.getD 6
  let upper := conversion.isUpper
  match x.unpack with
  | .nan => (if upper then "NAN" else "nan").toList
  | .infinite _ => (if upper then "INF" else "inf").toList
  | .finite _ m e =>
    let num := m * Nat.pow 2 e.toNat
    let den := Nat.pow 2 (-e).toNat
    match conversion.toLower with
    | 'f' => fixed s.alternate places num den
    | 'e' => exponential conversion s.alternate places num den
    | _ => general (if upper then 'E' else 'e') s.alternate places num den

/-! ## Conversions -/

/-- A directive that was read. -/
structure Directive where
  medium : Medium
  style : Style
  conversion : Char
  /-- The place of the conversion in the whole text. -/
  position : Nat
  /-- Whether a digit of the width or of the precision stands right in front of the conversion. -/
  counted : Bool

namespace Directive

def withWidth (d : Directive) (width : Nat) : Directive :=
  { d with style := { d.style with width := width } }

/-- An integer in a base, with the mark of the base if the style asks for it. -/
def inBase (d : Directive) (base : Nat) (mark : List Char) (digit : Char → Char) (n : Int) :
    List Char :=
  d.style.integer (n < 0) (if d.style.alternate then mark else [])
    ((Nat.toDigits base n.natAbs).map digit)

/-- A single character, or the number of one. -/
def character : Value → Except Fault Char
  | .str s =>
    match s.toList with
    | [c] => .ok c
    | _ => .error .mismatch
  | v => do
    let n ← v.integer
    if n < 0 || 0x110000 ≤ n then .error (.notACharacter "0x110000") else .ok (Char.ofNat n.toNat)

/-- A single byte, or its number. -/
def byte : Value → Except Fault Char
  | .atom (.bytes _ data) =>
    match data with
    | [b] => .ok (Char.ofNat b.toNat)
    | _ => .error .mismatch
  | v => do
    let n ← v.integer
    if n < 0 || 256 ≤ n then .error (.notACharacter "256") else .ok (Char.ofNat n.toNat)

/-- Only bytes can be written as they are among bytes. -/
def content : Value → Except Fault (List Char)
  | .atom (.bytes _ data) => .ok (Medium.charsOf data)
  | _ => .error .mismatch

/-- A character beyond ASCII by its number. -/
def asciiOnly (c : Char) : List Char := if c.toNat < 128 then [c] else Quoted.numbered c.toNat

/-- An integer cannot have more digits. -/
def maxPlaces : Nat := Nat.pow 2 31 - 4

def checkPlaces (d : Directive) : Except Fault Unit :=
  if maxPlaces < d.style.precision.getD 0 then .error .tooManyPlaces else .ok ()

/-- A value that is an integer, in a base. -/
def basedOn (d : Directive) (base : Nat) (mark : List Char) (digit : Char → Char) (v : Value) :
    Except Fault (List Char) := do
  let n ← v.integer
  d.checkPlaces
  .ok (d.inBase base mark digit n)

/-- Why a conversion does not exist. In a text a character that cannot be printed is shown as a
question mark; a byte beyond ASCII cannot be shown unless digits stand in front of it. -/
def unsupported (d : Directive) : Fault :=
  let n := d.conversion.toNat
  let message (shown : Char) : Fault :=
    .badDirective ("unsupported format character '" ++ String.ofList [shown] ++ "' (0x" ++
      String.ofList (Nat.toDigits 16 n) ++ ") at index " ++ toString d.position)
  match d.medium with
  | .text => message (if 31 ≤ n && n ≤ 126 then d.conversion else '?')
  | .bytes => if n < 128 || d.counted then message d.conversion else .unshownCharacter

/-- A float to be written. Among bytes every fault on the way to it counts as a mismatch. -/
def float (d : Directive) (v : Value) : Except Fault Binary64 :=
  match d.medium, v.float with
  | .bytes, .error _ => .error .mismatch
  | _, x => x

/-- Digits that are all zeros. -/
def isZero (cs : List Char) : Bool := cs.contains '0' && cs.all fun c => !('1' ≤ c && c ≤ '9')

def writeFloat (d : Directive) (x : Binary64) : List Char :=
  let cs := magnitude d.conversion d.style x
  d.style.number (x.negative && !x.isNan && !(d.style.unsignedZero && isZero cs)) [] cs

def convert (d : Directive) (v : Value) : Except Fault (List Char) := do
  match d.medium, d.conversion with
  | .text, 's' => .ok (d.style.text (← v.text).toList)
  | .text, 'r' => .ok (d.style.text (← v.repr).toList)
  | .bytes, 's' | .bytes, 'b' => .ok (d.style.text (← content v))
  | .bytes, 'r' | _, 'a' => .ok (d.style.text ((← v.repr).toList.flatMap asciiOnly))
  | .text, 'c' => .ok (d.style.justify [← character v])
  | .bytes, 'c' => .ok (d.style.justify [← byte v])
  | _, 'd' | _, 'i' | _, 'u' => do
    let n ← v.wholePart
    d.checkPlaces
    let digits ← integerText n.natAbs
    .ok (d.style.integer (n < 0) [] digits.toList)
  | _, 'x' => d.basedOn 16 ['0', 'x'] id v
  | _, 'X' => d.basedOn 16 ['0', 'X'] Char.toUpper v
  | _, 'o' => d.basedOn 8 ['0', 'o'] id v
  | _, 'e' | _, 'E' | _, 'f' | _, 'F' | _, 'g' | _, 'G' => do .ok (d.writeFloat (← d.float v))
  | _, _ => .error d.unsupported

end Directive
end Template
end Conform
