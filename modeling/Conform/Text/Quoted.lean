import Conform.Text.Printable

/-! Quoted text. Single quotes are used, or double ones if only single ones occur inside; the
quote in use and the backslash are escaped, and so is every character that is not printable. -/

namespace Conform
set_option autoImplicit false

namespace Quoted

def hexDigit (n : Nat) : Char := "0123456789abcdef".toList.getD n '0'

/-- The last `width` hexadecimal digits of a number. -/
def hex : Nat → Nat → List Char
  | 0, _ => []
  | width + 1, n => hex width (n / 16) ++ [hexDigit (n % 16)]

/-- The quote for a text, by whether a single and a double quote occur in it. -/
def quoteFor (single double : Bool) : Char := if single && !double then '"' else '\''

/-- The escapes with a letter or a repeated mark. -/
def short? (quote c : Char) : Option (List Char) :=
  if c = quote || c = '\\' then some ['\\', c]
  else match c with
    | '\n' => some ['\\', 'n']
    | '\r' => some ['\\', 'r']
    | '\t' => some ['\\', 't']
    | _ => none

def numbered (n : Nat) : List Char :=
  if n < 0x100 then '\\' :: 'x' :: hex 2 n
  else if n < 0x10000 then '\\' :: 'u' :: hex 4 n
  else '\\' :: 'U' :: hex 8 n

def escape (quote c : Char) : List Char :=
  match short? quote c with
  | some cs => cs
  | none => if isPrintable c then [c] else numbered c.toNat

def chars (cs : List Char) : List Char :=
  let quote := quoteFor (cs.contains '\'') (cs.contains '"')
  quote :: (cs.flatMap (escape quote) ++ [quote])

example : chars "it's".toList = "\"it's\"".toList := by decide
example : chars "'\"\n".toList = "'\\'\"\\n'".toList := by decide

/-! ## Bytes -/

def escapeByte (quote : Char) (b : UInt8) : List Char :=
  let c := Char.ofNat b.toNat
  match short? quote c with
  | some cs => cs
  | none => if 32 ≤ b.toNat && b.toNat < 127 then [c] else '\\' :: 'x' :: hex 2 b.toNat

def byteChars (bs : List UInt8) : List Char :=
  let quote := quoteFor (bs.contains 39) (bs.contains 34)
  'b' :: quote :: (bs.flatMap (escapeByte quote) ++ [quote])

end Quoted

def quoted (s : String) : String := String.ofList (Quoted.chars s.toList)
def quotedBytes (bs : List UInt8) : String := String.ofList (Quoted.byteChars bs)

end Conform
