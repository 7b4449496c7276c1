import Conform.Journal.JsonLine
import Conform.Journal.Level
import Conform.Value.Equality

/-! Events as coloured lines for a terminal: an entry without a key, time, level, text, logger, then
the other entries in the order of their keys. Calls that led to the event and an exception follow
on lines of their own. -/

namespace Conform
set_option autoImplicit false

namespace ConsoleLine

def escapeCode (code : String) : String := "\x1b[" ++ code ++ "m"

def reset : String := escapeCode "0"
def bright : String := escapeCode "1"
def dim : String := escapeCode "2"
def red : String := escapeCode "31"
def green : String := escapeCode "32"
def yellow : String := escapeCode "33"
def blue : String := escapeCode "34"
def magenta : String := escapeCode "35"
def cyan : String := escapeCode "36"

def colour (level : String) : String :=
  match level with
  | "debug" | "info" => green
  | "warning" => yellow
  | "error" | "critical" => red
  | _ => ""

def padded (width : Nat) (s : String) : String :=
  s ++ String.ofList (List.replicate (width - s.length) ' ')

def blanksAndQuotes : List Char := [' ', '\t', '=', '\r', '\n', '"', '\'']

/-- A string as it is, unless it has blanks, quotes or an equals sign. -/
def shown : Value → Except Fault String
  | .str s => .ok (if s.any (blanksAndQuotes.contains ·) then quoted s else s)
  | v => v.repr

/-! ## Columns -/

def levelColumn (level : String) : String :=
  "[" ++ colour level ++ bright ++ padded 9 level ++ reset ++ "]"

def loggerColumn (name : String) : String :=
  "[" ++ reset ++ bright ++ blue ++ name ++ reset ++ "]" ++ reset

def entryColumn (k text : String) : String :=
  cyan ++ k ++ reset ++ "=" ++ magenta ++ text ++ reset

/-- The columns that come first, with their keys, after the one without a key. -/
def leading : List (String × (String → String)) :=
  [("timestamp", fun s => dim ++ s ++ reset), ("level", levelColumn),
    ("event", fun s => bright ++ padded 30 s ++ reset), ("logger", loggerColumn),
    ("logger_name", loggerColumn)]

/-- Entries that are written below the columns, if at all. -/
def trailing : List String := ["stack", "exception", "exc_info"]

/-- Not among the entries in the order of their keys. -/
def isPlaced (k : Value) : Bool :=
  match k with
  | .str s => s.isEmpty || leading.any (·.1 = s) || trailing.contains s
  | _ => false

def keyless (es : Entries) : Except Fault (List String) :=
  match es.get? (.str "") with
  | some v => do .ok [entryColumn "" (← shown v)]
  | none => .ok []

def leadingTexts (es : List (Value × Value)) :
    List (String × (String → String)) → Except Fault (List String)
  | [] => .ok []
  | c :: cs => do
    let rest ← leadingTexts es cs
    match es.find? fun e => e.1 = .str c.1 with
    | some e => do .ok (c.2 (← e.2.text) :: rest)
    | none => .ok rest

def entryTexts : List (Value × Value) → Except Fault (List (String × String))
  | [] => .ok []
  | (k, v) :: es => do
    let rest ← entryTexts es
    if isPlaced k then .ok rest
    else do
      let s ← k.text
      .ok ((s, ← shown v) :: rest)

/-! ## Lines below -/

/-- A text of several lines; only strings are such texts. -/
def block? (es : Entries) (key : String) : Except Fault (Option String) :=
  match es.get? (.str key) with
  | none | some .null => .ok none
  | some (.str s) => .ok (some ("\n" ++ s))
  | some _ => .error .mismatch

def separator : String := "\n\n" ++ String.ofList (List.replicate 79 '=') ++ "\n"

/-- Whether an exception is spoken of. -/
def raised (es : Entries) : Except Fault Bool :=
  match es.get? (.str "exc_info") with
  | none => .ok false
  | some v => v.truthy

/-- The calls, then the exception, with a rule between them. -/
def below (es : Entries) : Except Fault String := do
  let stack ← block? es "stack"
  let spoken ← raised es
  let exception ← block? es "exception"
  let rule := if stack.isSome && (spoken || exception.isSome) then separator else ""
  .ok (stack.getD "" ++ rule ++ exception.getD "")

def render (es : Entries) : Except Fault String := do
  let unnamed ← keyless es
  let first ← leadingTexts es leading
  let others ← entryTexts es
  let columns := unnamed ++ first ++ (JsonLine.sorted others).map fun e => entryColumn e.1 e.2
  .ok (joined " " columns ++ (← below es))

end ConsoleLine
end Conform
