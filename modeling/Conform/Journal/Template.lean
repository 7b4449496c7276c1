import Conform.Journal.Directive

/-! Texts with directives, filled in from arguments; bytes can have directives, too. A directive is
a percent sign, an optional key in parentheses, flags, a width, a precision, a length mark without
meaning and a conversion; a doubled percent sign stands for itself. Arguments come in order, or by
key from one value; a width or a precision may be an argument, too. -/

namespace Conform
set_option autoImplicit false

namespace Template

/-! ## Arguments -/

/-- A series that is not empty is read by key if it maps keys to values. -/
def isKeyed : Value → Bool
  | .dict _ es | .mapping _ es _ => !es.isEmpty
  | _ => false

def isDictionary : Value → Bool
  | .dict .. => true
  | _ => false

/-- What is found under a name or a number. Only what maps keys to values has anything under a
name. -/
def item (subject key : Value) : Except Fault Value :=
  let found (es : Entries) : Except Fault Value :=
    match es.get? key with
    | some v => .ok v
    | none => do .error (.missingKey (← key.repr))
  match subject with
  | .dict _ es => found es
  | .mapping _ es raising =>
    if raising.any fun name => key = .str name then .error .lookupFailed else found es
  | _ => .error .mismatch

/-- A value with items under keys or numbers; texts and tuples are arguments in another way, and so
are bytes among bytes. -/
def hasItems (m : Medium) : Value → Bool
  | .list .. | .dict .. | .mapping .. | .atom (.range ..) | .atom (.choice ..) => true
  | .atom (.bytes ..) => m = .text
  | _ => false

inductive Arguments where
  | inOrder (vs : List Value)
  /-- What keys are looked up in, and the value that the next directive takes, if there is one. -/
  | byKey (subject : Value) (current : Option Value)

namespace Arguments

/-- A tuple gives arguments in order, a value with items is taken by key after it was taken as a
whole, any other value is a single argument. -/
def ofOperand (m : Medium) : Value → Arguments
  | .tuple _ vs => .inOrder vs
  | v => if hasItems m v then .byKey v (some v) else .inOrder [v]

def take : Arguments → Except Fault (Value × Arguments)
  | inOrder (v :: vs) => .ok (v, inOrder vs)
  | byKey subject (some v) => .ok (v, byKey subject none)
  | _ => .error .mismatch

/-- Makes the value under a key the next one. -/
def select (key : Value) : Arguments → Except Fault Arguments
  | inOrder _ => .error .mismatch
  | byKey subject _ => do .ok (byKey subject (some (← item subject key)))

/-- Arguments in order have all to be used. -/
def finish : Arguments → Except Fault Unit
  | inOrder (_ :: _) => .error .mismatch
  | _ => .ok ()

end Arguments

/-! ## Reading -/

/-- What is left of the text, and of the arguments. -/
structure Rest where
  text : List Char
  arguments : Arguments

abbrev Filling (α : Type) := StateT Rest (Except Fault) α

def fail {α : Type} (fault : Fault) : Filling α := StateT.lift (.error fault)

def takeArgument : Filling Value := do
  let r ← get
  let (v, arguments) ← StateT.lift r.arguments.take
  set { r with arguments := arguments }
  pure v

/-- The characters at the front that pass a test. -/
def span (test : Char → Bool) : Filling (List Char) := do
  let r ← get
  set { r with text := r.text.dropWhile test }
  pure (r.text.takeWhile test)

/-- Whether the next character passes a test; then it is passed over. -/
def accept (test : Char → Bool) : Filling Bool := do
  let r ← get
  match r.text with
  | c :: cs =>
    if test c then do
      set { r with text := cs }
      pure true
    else pure false
  | [] => pure false

/-- The text up to the parenthesis that closes the `depth` open ones, and what follows it. -/
def closing (depth : Nat) : List Char → Option (List Char × List Char)
  | [] => none
  | ')' :: cs =>
    if depth = 0 then some ([], cs) else (closing (depth - 1) cs).map fun p => (')' :: p.1, p.2)
  | '(' :: cs => (closing (depth + 1) cs).map fun p => ('(' :: p.1, p.2)
  | c :: cs => (closing depth cs).map fun p => (c :: p.1, p.2)

/-- Reads the key behind an opening parenthesis and selects its value. -/
def readKey (m : Medium) : Filling Unit := do
  let r ← get
  match r.arguments with
  | .inOrder _ => fail .mismatch
  | arguments =>
    match closing 0 r.text with
    | none => fail (.badDirective "incomplete format key")
    | some (key, text) => do
      let arguments ← StateT.lift (arguments.select (m.value key))
      set (⟨text, arguments⟩ : Rest)

/-- An integer among the arguments. -/
def takeSize : Filling Int := do
  let v ← takeArgument
  match v.number? with
  | some (.int n) => pure n
  | _ => fail .mismatch

/-- Bytes have one flag more than texts. -/
def isFlag (m : Medium) (c : Char) : Bool :=
  ['-', '+', ' ', '#', '0'].contains c || (c == 'z' && m = .bytes)

def maxWidth : Nat := maxLength
def maxPrecision : Nat := Nat.pow 2 31 - 1

/-- What a size is that was read. -/
structure Size (α : Type) where
  size : α
  /-- Whether it was written as digits. -/
  counted : Bool

/-- The width, and whether it asks for filling on the right. -/
def readWidth : Filling (Size (Nat × Bool)) := do
  if ← accept (· == '*') then do
    let n ← takeSize
    if n = -(maxWidth : Int) - 1 then pure ⟨(0, true), false⟩
    else if n.natAbs ≤ maxWidth then pure ⟨(n.natAbs, n < 0), false⟩
    else fail .rangeTooLong
  else do
    let ds ← span Char.isDigit
    let n := Scientific.digitsValue ds
    if n ≤ maxWidth then pure ⟨(n, false), !ds.isEmpty⟩ else fail (.badDirective "width too big")

/-- A precision that is too big, as texts and bytes word it. -/
def tooPrecise : Medium → Fault
  | .text => .badDirective "precision too big"
  | .bytes => .badDirective "prec too big"

/-- The precision, if there is one behind a point; a negative one counts as zero. -/
def readPrecision (m : Medium) : Filling (Option (Size Nat)) := do
  if ← accept (· == '.') then
    if ← accept (· == '*') then do
      let n ← takeSize
      if -(maxPrecision : Int) - 1 ≤ n && n ≤ maxPrecision then pure (some ⟨n.toNat, false⟩)
      else fail .precisionTooLarge
    else do
      let ds ← span Char.isDigit
      let n := Scientific.digitsValue ds
      if n ≤ maxPrecision then pure (some ⟨n, !ds.isEmpty⟩) else fail (tooPrecise m)
  else pure none

/-- Reads the directive behind a percent sign, in a text of `total` characters. -/
def readDirective (m : Medium) (total : Nat) : Filling Directive := do
  if ← accept (· == '(') then readKey m
  let flags ← span (isFlag m)
  let width ← readWidth
  let precision ← readPrecision m
  let marked ← accept (['h', 'l', 'L'].contains ·)
  let r ← get
  match r.text with
  | [] => fail (.badDirective "incomplete format")
  | c :: cs => do
    set { r with text := cs }
    pure {
      medium := m
      style := {
        left := flags.contains '-' || width.size.2
        plus := flags.contains '+'
        blank := flags.contains ' '
        alternate := flags.contains '#'
        zeros := flags.contains '0'
        unsignedZero := flags.contains 'z'
        width := width.size.1
        precision := precision.map Size.size }
      conversion := c
      position := total - cs.length - 1
      counted := !marked && (precision.map Size.counted).getD width.counted }

/-! ## Filling in -/

/-- No text is filled up to a greater width. -/
def maxFilled : Nat := Nat.pow 2 33

/-- What a directive writes. -/
def writeDirective (m : Medium) (total : Nat) : Filling (List Char) := do
  if ← accept (· == '%') then pure ['%']
  else do
    let d ← readDirective m total
    let v ← takeArgument
    if d.style.width ≤ maxFilled then StateT.lift (d.convert v)
    else do
      let _ ← StateT.lift ((d.withWidth 0).convert v)
      fail .outOfMemory

/-- Fills in what is left. Every round uses up a character, so as many rounds as there are
characters suffice. -/
def fillRest (m : Medium) (total : Nat) : Nat → Filling (List Char)
  | 0 => pure []
  | rounds + 1 => do
    let r ← get
    match r.text with
    | [] => pure []
    | c :: cs => do
      set { r with text := cs }
      let written ← if c == '%' then writeDirective m total else pure [c]
      let rest ← fillRest m total rounds
      pure (written ++ rest)

def fillChars (m : Medium) (cs : List Char) (operand : Value) : Except Fault Value := do
  let (written, r) ← (fillRest m cs.length cs.length).run ⟨cs, .ofOperand m operand⟩
  r.arguments.finish
  .ok (m.value written)

/-- Fills in a text or bytes; nothing else can be filled in. -/
def fillValue (template operand : Value) : Except Fault Value :=
  match template with
  | .str text => fillChars .text text.toList operand
  | .atom (.bytes _ data) => fillChars .bytes (Medium.charsOf data) operand
  | _ => .error .mismatch

/-- Arguments as one value: a single one that passes a test and is not empty is taken by key. -/
def operand (byKey : Value → Bool) : List Value → Value
  | [v] => if byKey v && isKeyed v then v else .tuple 0 [v]
  | vs => .tuple 0 vs

/-- Without arguments a text stands for itself. -/
def fill (template : Value) (arguments : List Value) : Except Fault Value :=
  if arguments.isEmpty then .ok template
  else fillValue template (operand isKeyed arguments)

end Template
end Conform
