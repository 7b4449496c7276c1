/-! Faults: why an operation on dynamic values gives no answer. Each constructor is one cause;
`Fault.message` is the only place where wording is chosen, and it is silent for the two causes
whose wording is left open. -/

namespace Conform
set_option autoImplicit false

/-- The ways in which a function supplied by a caller complains. -/
inductive Complaint where
  | value
  | runtime
  /-- There are no more items. -/
  | ended
  deriving DecidableEq

inductive Fault where
  /-- An operand or an argument does not suit the operation. -/
  | mismatch
  /-- The object has no member of that name. -/
  | noMember
  /-- A decimal that is not a number was put in order or compared while signaling. -/
  | invalidDecimal
  /-- A decimal result lies beyond all decimals. -/
  | decimalOverflow
  /-- An integer is too long to be written out. -/
  | tooManyDigits
  /-- A text has too many digits to be read as an integer. -/
  | tooManyDigitsRead (count : Nat)
  /-- A text, here quoted, that is no integer. -/
  | notAnInteger (quoted : String)
  | notAFloat (quoted : String)
  | notADecimal
  /-- A mapping failed to look up one of its keys. -/
  | lookupFailed
  /-- An object failed to tell its length. -/
  | noLength
  /-- An object failed to give the attribute of that name. -/
  | attributeFailed (name : String)
  /-- The element at an index, of so many parts, is no entry of a dictionary. -/
  | noEntry (index count : Nat)
  | negativeLength
  | lengthTooLarge
  | rangeTooLong
  | precisionTooLarge
  /-- A number cannot be written with so many digits. -/
  | tooManyPlaces
  /-- A text would be too long to be held. -/
  | outOfMemory
  /-- An integer lies beyond all floats. -/
  | floatTooLarge
  /-- A number has no counterpart among the numbers of a sort. -/
  | unconvertible (number sort : String)
  | infiniteInteger (number : String)
  /-- An integer that is the number of no character below a limit. -/
  | notACharacter (limit : String)
  /-- A character that cannot be shown in a message. -/
  | unshownCharacter
  /-- Zero raised to a negative power. -/
  | zeroPower
  /-- A name that no variable can have. -/
  | illegalVariable
  | invalidVariable
  | embeddedNull
  | complaint (kind : Complaint) (text : String)
  /-- A field of an immutable record was assigned to; the name is quoted. -/
  | frozenField (quoted : String)
  /-- A text that names no error code. -/
  | notACode (text : String)
  | unwrappedError (text : String)
  /-- A level given by a name, here quoted, that is no level. -/
  | unknownLevel (quoted : String)
  | badDirective (text : String)
  /-- A directive asks for a key, here quoted, that the arguments lack. -/
  | missingKey (quoted : String)
  /-- The settings that could not be read, by field. -/
  | settings (fields : List String)
  deriving DecidableEq

/-- What becomes of a fault while the items of a series are made: the complaint that there are no
more of them does not pass for the end of that series. -/
def Fault.inSeries : Fault → Fault
  | .complaint .ended _ => .complaint .runtime "generator raised StopIteration"
  | fault => fault

/-- The text that goes with a fault, where the text is fixed. -/
def Fault.message : Fault → Option String
  | .mismatch | .noMember | .settings _ => none
  | .invalidDecimal => some "[<class 'decimal.InvalidOperation'>]"
  | .decimalOverflow => some "[<class 'decimal.Overflow'>]"
  | .tooManyDigits => some ("Exceeds the limit (4300 digits) for integer string conversion; " ++
      "use sys.set_int_max_str_digits() to increase the limit")
  | .tooManyDigitsRead count => some ("Exceeds the limit (4300 digits) for integer string " ++
      "conversion: value has " ++ toString count ++
      " digits; use sys.set_int_max_str_digits() to increase the limit")
  | .notAnInteger quoted => some ("invalid literal for int() with base 10: " ++ quoted)
  | .notAFloat quoted => some ("could not convert string to float: " ++ quoted)
  | .notADecimal => some "[<class 'decimal.ConversionSyntax'>]"
  | .lookupFailed => some "lookup failed"
  | .noLength => some "no length"
  | .attributeFailed name => some name
  | .noEntry index count => some ("dictionary update sequence element #" ++ toString index ++
      " has length " ++ toString count ++ "; 2 is required")
  | .negativeLength => some "__len__() should return >= 0"
  | .lengthTooLarge => some "cannot fit 'int' into an index-sized integer"
  | .rangeTooLong => some "Python int too large to convert to C ssize_t"
  | .precisionTooLarge => some "Python int too large to convert to C int"
  | .tooManyPlaces => some "precision too large"
  | .outOfMemory => some ""
  | .floatTooLarge => some "int too large to convert to float"
  | .unconvertible number sort => some ("cannot convert " ++ number ++ " to " ++ sort)
  | .infiniteInteger number => some ("cannot convert " ++ number ++ " to integer")
  | .notACharacter limit => some ("%c arg not in range(" ++ limit ++ ")")
  | .unshownCharacter => some "character argument not in range(0x110000)"
  | .zeroPower => some "0.0 cannot be raised to a negative power"
  | .illegalVariable => some "illegal environment variable name"
  | .invalidVariable => some "[Errno 22] Invalid argument"
  | .embeddedNull => some "embedded null byte"
  | .complaint _ text => some text
  | .frozenField quoted => some ("cannot assign to field " ++ quoted)
  | .notACode text => some (text ++ " is not a valid ErrorCode")
  | .unwrappedError text => some ("Called unwrap on Err: " ++ text)
  | .unknownLevel quoted => some ("Unknown level: " ++ quoted)
  | .badDirective text => some text
  | .missingKey quoted => some quoted

end Conform
