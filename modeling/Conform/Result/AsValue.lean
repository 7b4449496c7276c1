import Conform.Result.AppError

/-! Application errors and results among values: objects that offer their fields and functions as
attributes and show their text. -/

namespace Conform
set_option autoImplicit false

/-- An object that only shows itself. -/
def Traits.showing (text : Answer String) : Traits := { Traits.plain with text := text }

namespace Record

def answer {α : Type} : Except Fault α → Answer α
  | .ok a => .gives a
  | .error fault => .fails fault

/-- An object with fields and functions. -/
def object (fields : List (String × Value)) (functions : List String) (text : Except Fault String) :
    Value :=
  .object 0 (fields ++ functions.map fun name => (name, Attribute.method name))
    (Traits.showing (answer text))

/-! ## Errors -/

def code (c : ErrorCode) : Value :=
  object [("name", .str c.name), ("value", .int c.number), ("category", .str c.category)] []
    (.ok ("ErrorCode." ++ c.name))

/-- A drawn identifier has eight digits, whichever they are. -/
def correlation : Correlation → Value
  | .fresh => .str "00000000"
  | .given id => .str id

/-- A moment is known by the numbers of its date and its time, whichever they are. -/
def moment : Value :=
  object (["year", "month", "day", "hour", "minute", "second", "microsecond", "fold"].map
      fun part => (part, .int 0))
    ["astimezone", "ctime", "date", "dst", "isocalendar", "isoformat", "isoweekday", "replace",
      "strftime", "time", "timestamp", "timetuple", "timetz", "toordinal", "tzname", "utcoffset",
      "utctimetuple", "weekday"] (.ok "")

def context (c : Correlation) (origin : Value) : Value :=
  object [("correlation_id", correlation c), ("timestamp", moment), ("origin", origin)] [] (.ok "")

/-- A rejection has its message for a text, if that is a string. -/
def rejection (message : Value) : Value :=
  object [("message", message), ("args", .tuple 0 [message]), ("__cause__", .null),
      ("__context__", .null), ("__traceback__", .null), ("__suppress_context__", .bool false)]
    ["to_app_error", "add_note", "with_traceback"]
    (match message with
      | .str s => .ok s
      | _ => .error .mismatch)

def appError (e : AppError) : Value :=
  object [("code", code e.code), ("message", e.message),
      ("context", context e.correlation e.origin), ("metadata", e.metadata),
      ("cause", match e.cause with
        | some message => rejection message
        | none => .null)]
    [] e.text

/-! ## Results -/

/-- What can be asked of every result. -/
def resultFunctions : List String :=
  ["is_ok", "is_err", "unwrap", "unwrap_or", "unwrap_or_else", "map", "map_err", "flat_map",
    "and_then", "or_else", "match", "__iter__"]

def success (v : Value) (text : Except Fault String) : Value :=
  object [("value", v)] resultFunctions text

def failure (e : Value) (text : Except Fault String) : Value :=
  object [("error", e)] ("unwrap_err" :: resultFunctions) text

end Record
end Conform
