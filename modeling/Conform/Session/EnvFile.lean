import Conform.Text.Character

/-! Files of settings: statements of the form `NAME=value`, one after the other, with comments and
blank lines between them. A value may be quoted, and then go on over lines; a name may stand
without a value; values refer to names by `${NAME}` or `${NAME:-default}`. A statement that cannot
be read is passed over up to the end of its line, and the line on which it began is kept. -/

namespace Conform
set_option autoImplicit false

/-- What a file says: names with their values, which may be missing, and where it cannot be read. -/
structure EnvFile where
  entries : List (String × Option String)
  malformed : List Nat

namespace EnvFile

/-! ## Characters -/

/-- Blank, and no end of a line. -/
def isGap (c : Char) : Bool := isBlank c && c != '\n'

def dropGaps (cs : List Char) : List Char := cs.dropWhile isGap

/-- Every end of a line as a line feed. -/
def normalLines : List Char → List Char
  | [] => []
  | '\r' :: '\n' :: cs => '\n' :: normalLines cs
  | c :: cs => (if c = '\r' then '\n' else c) :: normalLines cs

/-- Without the mark that may begin a file. -/
def dropMark : List Char → List Char
  | c :: cs => if c.toNat = 0xFEFF then cs else c :: cs
  | [] => []

/-! ## Reading -/

/-- A reader gives what it read and what is left, or the place where it had to stop. -/
abbrev Reader (α : Type) := List Char → Except (List Char) (α × List Char)

/-- The rest of the line, and what follows it. -/
def dropLine (cs : List Char) : List Char := (cs.dropWhile (· != '\n')).drop 1

def exportWord : List Char := "export".toList

/-- A name may follow the word `export`. -/
def dropExport (cs : List Char) : List Char :=
  let rest := cs.drop exportWord.length
  if cs.take exportWord.length == exportWord && (rest.head?.map isGap).getD false
  then dropGaps rest else cs

def isNameChar (c : Char) : Bool := !(c == '=' || c == '#' || isBlank c)

/-- A name, quoted or not; none in front of a comment. -/
def name : Reader (Option String) := fun cs =>
  match cs with
  | '#' :: _ => .ok (none, cs)
  | '\'' :: r =>
    match r.takeWhile (· != '\''), r.dropWhile (· != '\'') with
    | c :: key, _ :: rest => .ok (some (String.ofList (c :: key)), rest)
    | _, _ => .error cs
  | cs =>
    let key := cs.takeWhile isNameChar
    if key.isEmpty then .error cs else .ok (some (String.ofList key), cs.dropWhile isNameChar)

/-- The text up to the quote that closes it. A backslash takes the next character along, whichever
it is, so that a quote behind it closes nothing. -/
def upToQuote (quote : Char) : List Char → Option (List Char × List Char)
  | [] => none
  | '\\' :: c :: r => (upToQuote quote r).map fun p => ('\\' :: c :: p.1, p.2)
  | c :: r => if c = quote then some ([], r) else (upToQuote quote r).map fun p => (c :: p.1, p.2)

/-- The character that an escape between such quotes stands for. -/
def escaped? (quote c : Char) : Option Char :=
  match c with
  | '\\' | '\'' => some c
  | _ =>
    if quote = '\'' then none
    else match c with
      | '"' => some '"'
      | 'a' => some (Char.ofNat 7)
      | 'b' => some (Char.ofNat 8)
      | 'f' => some (Char.ofNat 12)
      | 'n' => some '\n'
      | 'r' => some '\r'
      | 't' => some '\t'
      | 'v' => some (Char.ofNat 11)
      | _ => none

def unescape (quote : Char) : List Char → List Char
  | [] => []
  | '\\' :: c :: r =>
    match escaped? quote c with
    | some d => d :: unescape quote r
    | none => '\\' :: unescape quote (c :: r)
  | c :: r => c :: unescape quote r

/-- The text before a comment, which has a blank in front. -/
def beforeComment : List Char → List Char
  | [] => []
  | c :: r =>
    if isBlank c && (r.dropWhile isBlank).head? == some '#' then [] else c :: beforeComment r

/-- The value behind an equals sign. -/
def value : Reader String := fun cs =>
  let inQuotes (quote : Char) (r : List Char) : Except (List Char) (String × List Char) :=
    match upToQuote quote r with
    | some (inner, rest) => .ok (String.ofList (unescape quote inner), rest)
    | none => .error (quote :: r)
  match dropGaps cs with
  | '"' :: r => inQuotes '"' r
  | '\'' :: r => inQuotes '\'' r
  | _ =>
    let line := cs.takeWhile (· != '\n')
    .ok (String.ofList (stripped isBlank (beforeComment line)), cs.dropWhile (· != '\n'))

/-- Nothing but a comment may follow a statement on its line. -/
def lineEnd : Reader Unit := fun cs =>
  let rest := match dropGaps cs with
    | '#' :: r => r.dropWhile (· != '\n')
    | _ => cs
  match dropGaps rest with
  | [] => .ok ((), [])
  | '\n' :: r => .ok ((), r)
  | _ => .error rest

/-- A statement at its first character, or a comment. -/
def statement : Reader (Option (String × Option String)) := fun cs => do
  let (key, r) ← name (dropExport cs)
  let (given, r) ← match dropGaps r with
    | '=' :: r => (value r).map fun p => (some p.1, p.2)
    | r => .ok (none, r)
  let ((), r) ← lineEnd r
  .ok (key.map fun key => (key, given), r)

/-! ## Statements -/

inductive Statement where
  | entry (name : String) (value : Option String)
  | malformed (line : Nat)

/-- How many lines end between a place in a text and a later one. -/
def linesBetween (cs rest : List Char) : Nat := cs.count '\n' - rest.count '\n'

/-- The statements of a text that begins on a line. Every round uses up a character, so as many
rounds as there are characters suffice. -/
def statements : Nat → Nat → List Char → List Statement
  | 0, _, _ => []
  | rounds + 1, line, cs =>
    match cs.dropWhile isBlank with
    | [] => []
    | c :: r =>
      match statement (c :: r) with
      | .ok (found, rest) =>
        let others := statements rounds (line + linesBetween cs rest) rest
        match found with
        | some (key, given) => .entry key given :: others
        | none => others
      | .error place =>
        let rest := dropLine place
        .malformed line :: statements rounds (line + linesBetween cs rest) rest

/-! ## References -/

/-- What follows the opening of a reference: a name, possibly a default, and the closing brace. -/
def reference? (cs : List Char) : Option (String × String × List Char) :=
  let inName (c : Char) : Bool := c != '\x7d' && c != ':'
  let key := String.ofList (cs.takeWhile inName)
  match cs.dropWhile inName with
  | '\x7d' :: r => some (key, "", r)
  | ':' :: '-' :: r =>
    match r.dropWhile (· != '\x7d') with
    | _ :: rest => some (key, String.ofList (r.takeWhile (· != '\x7d')), rest)
    | [] => none
  | _ => none

/-- A text with its references replaced; whatever only looks like one stays as it is. -/
def resolved (meaning : String → String → String) : Nat → List Char → List Char
  | 0, cs => cs
  | _ + 1, [] => []
  | rounds + 1, c :: cs =>
    match c, cs with
    | '$', '\x7b' :: r =>
      match reference? r with
      | some (key, default, rest) => (meaning key default).toList ++ resolved meaning rounds rest
      | none => '$' :: resolved meaning rounds cs
    | c, cs => c :: resolved meaning rounds cs

/-- What a name means: a value given before in the file, else the value of a variable, else the
default. A name that stands in the file without a value means nothing. -/
def meaningIn (environment : List (String × String)) (entries : List (String × Option String))
    (key default : String) : String :=
  match entries.find? fun e => e.1 = key with
  | some (_, some v) => v
  | some (_, none) => ""
  | none =>
    match environment.find? fun e => e.1 = key with
    | some (_, v) => v
    | none => default

/-! ## Files -/

/-- A name that is given again keeps its place. -/
def setEntry (key : String) (given : Option String) :
    List (String × Option String) → List (String × Option String)
  | [] => [(key, given)]
  | e :: es => if e.1 = key then (key, given) :: es else e :: setEntry key given es

def add (environment : List (String × String)) (file : EnvFile) : Statement → EnvFile
  | .malformed line => { file with malformed := file.malformed ++ [line] }
  | .entry key given =>
    let meaning := meaningIn environment file.entries
    let given := given.map fun v => String.ofList (resolved meaning v.length v.toList)
    { file with entries := setEntry key given file.entries }

def ofText (environment : List (String × String)) (text : String) : EnvFile :=
  let cs := normalLines (dropMark text.toList)
  (statements cs.length 1 cs).foldl (add environment) ⟨[], []⟩

end EnvFile
end Conform
