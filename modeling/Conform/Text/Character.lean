/-! Characters: the blanks of any script, and letter case as far as it can lead to ASCII letters.
Other letters are left alone: they never become part of an ASCII word. -/

namespace Conform
set_option autoImplicit false

/-! ## Blanks -/

/-- The code points of the characters that separate words in any script, line ends among them. -/
def blankPoints : List Nat :=
  [0x9, 0xA, 0xB, 0xC, 0xD, 0x1C, 0x1D, 0x1E, 0x1F, 0x20, 0x85, 0xA0, 0x1680, 0x2000, 0x2001,
    0x2002, 0x2003, 0x2004, 0x2005, 0x2006, 0x2007, 0x2008, 0x2009, 0x200A, 0x2028, 0x2029, 0x202F,
    0x205F, 0x3000]

def isBlank (c : Char) : Bool := blankPoints.contains c.toNat

/-- Blank and in the ASCII range, the four separators left aside. -/
def isAsciiBlank (c : Char) : Bool := c == ' ' || (9 ≤ c.toNat && c.toNat ≤ 13)

/-- Without the characters at both ends that pass a test. -/
def stripped (test : Char → Bool) (cs : List Char) : List Char :=
  ((cs.dropWhile test).reverse.dropWhile test).reverse

/-! ## Letter case -/

namespace Case

/-- Lower case; besides the ASCII capitals the Kelvin sign has an ASCII lower case. -/
def lowerChar (c : Char) : Char :=
  if c.toNat = 0x212A then 'k' else c.toLower

/-- Upper case; the dotless i, the long s and the ligatures of s and t have ASCII capitals. -/
def upperChar (c : Char) : List Char :=
  match c.toNat with
  | 0x131 => ['I']
  | 0x17F => ['S']
  | 0xDF => ['S', 'S']
  | 0xFB00 => ['F', 'F']
  | 0xFB01 => ['F', 'I']
  | 0xFB02 => ['F', 'L']
  | 0xFB03 => ['F', 'F', 'I']
  | 0xFB04 => ['F', 'F', 'L']
  | 0xFB05 => ['S', 'T']
  | 0xFB06 => ['S', 'T']
  | _ => [c.toUpper]

def lower (s : String) : String := String.ofList (s.toList.map lowerChar)
def upper (s : String) : String := String.ofList (s.toList.flatMap upperChar)

/-- Lower case of the ASCII letters alone. -/
def asciiLower (s : String) : String := String.ofList (s.toList.map Char.toLower)

end Case
end Conform
