import Conform.Value.Equality

/-! Attributes of values, and the fields that are looked up in them. Every value has the common
methods, most have methods and facts of their own kind, and an object has the attributes it was
given behind those. Reading an attribute gives a value; a method is a function known by its name. A
field is an attribute, or an entry where the value has entries by name. -/

namespace Conform
set_option autoImplicit false

namespace Attribute

/-! ## Methods by kind -/

def common : List String :=
  ["__class__", "__delattr__", "__dir__", "__eq__", "__format__", "__ge__", "__getattribute__",
    "__getstate__", "__gt__", "__hash__", "__init__", "__init_subclass__", "__le__", "__lt__",
    "__ne__", "__new__", "__reduce__", "__reduce_ex__", "__repr__", "__setattr__", "__sizeof__",
    "__str__", "__subclasshook__"]

def ofLists : List String :=
  ["__add__", "__class_getitem__", "__contains__", "__delitem__", "__getitem__", "__iadd__",
    "__imul__", "__iter__", "__len__", "__mul__", "__reversed__", "__rmul__", "__setitem__",
    "append", "clear", "copy", "count", "extend", "index", "insert", "pop", "remove", "reverse",
    "sort"]

def ofTuples : List String :=
  ["__add__", "__class_getitem__", "__contains__", "__getitem__", "__getnewargs__", "__iter__",
    "__len__", "__mul__", "__rmul__", "count", "index"]

/-- What texts and bytes have in common. -/
def ofLetters : List String :=
  ["__add__", "__contains__", "__getitem__", "__getnewargs__", "__iter__", "__len__", "__mod__",
    "__mul__", "__rmod__", "__rmul__", "capitalize", "center", "count", "endswith", "expandtabs",
    "find", "index", "isalnum", "isalpha", "isascii", "isdigit", "islower", "isspace", "istitle",
    "isupper", "join", "ljust", "lower", "lstrip", "maketrans", "partition", "removeprefix",
    "removesuffix", "replace", "rfind", "rindex", "rjust", "rpartition", "rsplit", "rstrip",
    "split", "splitlines", "startswith", "strip", "swapcase", "title", "translate", "upper",
    "zfill"]

def ofBytes : List String := ["__bytes__", "decode", "fromhex", "hex"] ++ ofLetters

def ofTexts : List String :=
  ["casefold", "encode", "format", "format_map", "isdecimal", "isidentifier", "isnumeric",
    "isprintable"] ++ ofLetters

def ofRanges : List String :=
  ["__bool__", "__contains__", "__getitem__", "__iter__", "__len__", "__reversed__", "count",
    "index"]

def ofDecimals : List String :=
  ["__abs__", "__add__", "__bool__", "__ceil__", "__complex__", "__copy__", "__deepcopy__",
    "__divmod__", "__float__", "__floor__", "__floordiv__", "__int__", "__mod__", "__mul__",
    "__neg__", "__pos__", "__pow__", "__radd__", "__rdivmod__", "__rfloordiv__", "__rmod__",
    "__rmul__", "__round__", "__rpow__", "__rsub__", "__rtruediv__", "__sub__", "__truediv__",
    "__trunc__", "adjusted", "as_integer_ratio", "as_tuple", "canonical", "compare",
    "compare_signal", "compare_total", "compare_total_mag", "conjugate", "copy_abs", "copy_negate",
    "copy_sign", "exp", "fma", "from_float", "is_canonical", "is_finite", "is_infinite", "is_nan",
    "is_normal", "is_qnan", "is_signed", "is_snan", "is_subnormal", "is_zero", "ln", "log10",
    "logb", "logical_and", "logical_invert", "logical_or", "logical_xor", "max", "max_mag", "min",
    "min_mag", "next_minus", "next_plus", "next_toward", "normalize", "number_class", "quantize",
    "radix", "remainder_near", "rotate", "same_quantum", "scaleb", "shift", "sqrt",
    "to_eng_string", "to_integral", "to_integral_exact", "to_integral_value"]

def ofDictionaries : List String :=
  ["__class_getitem__", "__contains__", "__delitem__", "__getitem__", "__ior__", "__iter__",
    "__len__", "__or__", "__reversed__", "__ror__", "__setitem__", "clear", "copy", "fromkeys",
    "get", "items", "keys", "pop", "popitem", "setdefault", "update", "values"]

def ofChoices : List String := ["__getitem__", "__or__", "__ror__"]

def ofMappings : List String :=
  ["__contains__", "__getitem__", "__iter__", "__len__", "get", "items", "keys", "values"]

/-! ## Facts by kind -/

def method (name : String) : Value := .atom (.function (.method name))

def methodIn (names : List String) (name : String) : Option Value :=
  if names.contains name || common.contains name then some (method name) else none

/-- A remark on the kind, for its readers. -/
def remark : Value := .str "About values of this kind."

/-- The attributes of a container whose contents can change: it has no hash. -/
def ofChanging (names : List String) (name : String) : Option Value :=
  match name with
  | "__hash__" => some .null
  | "__doc__" => some remark
  | name => methodIn names name

/-- The attributes of a container that does not change. -/
def ofConstant (names : List String) (name : String) : Option Value :=
  match name with
  | "__doc__" => some remark
  | name => methodIn names name

def ofRange (stop : Int) : String → Option Value
  | "start" => some (.int 0)
  | "stop" => some (.int stop)
  | "step" => some (.int 1)
  | name => ofConstant ofRanges name

def ofDecimal (self : Value) : String → Option Value
  | "real" => some self
  | "imag" => some (.atom (.decimal 0 (.finite false 0 0)))
  | "__module__" => some (.str "decimal")
  | name => ofConstant ofDecimals name

/-- A class has the methods of its instances. -/
def ofClass (path : String) (name : String) : Option Value :=
  match path with
  | "dict" => methodIn ofDictionaries name
  | "str" => methodIn ofTexts name
  | _ => methodIn [] name

/-- A choice tells the classes that it is made of. -/
def ofChoice (classes : List Callee) : String → Option Value
  | "__args__" => some (.tuple 0 (classes.map fun callee => .atom (.function callee)))
  | "__parameters__" => some (.tuple 0 [])
  | "__module__" => some (.str "types")
  | name => ofConstant ofChoices name

def ofAtom (a : Atom) (name : String) : Option Value :=
  match a with
  | .bytes .. => ofConstant ofBytes name
  | .str _ => ofConstant ofTexts name
  | .range _ stop => ofRange stop name
  | .decimal .. => ofDecimal (.atom a) name
  | .function (.cls path) => ofClass path name
  | .choice _ classes => ofChoice classes name
  | _ => methodIn [] name

/-- What an object has besides the attributes it was given. -/
def ofObject (traits : Traits) : String → Option Value
  | "__len__" => if traits.length = .unsupported then none else some (method "__len__")
  | "__call__" => if traits.callable then some (method "__call__") else none
  | "__doc__" | "__weakref__" => some .null
  | "__dict__" => some (.dict 0 [])
  | "__module__" => some (.str "")
  | "__getattr__" => some (method "__getattr__")
  | name => methodIn [] name

end Attribute

namespace Value
open Attribute

/-- Reads an attribute. Those that an object was given come last, and may fail to be read. -/
def attributeNamed (v : Value) (name : String) : Except Fault Value :=
  let found := match v with
    | .atom a => ofAtom a name
    | .symbol _ description =>
      if name = "description" then some description else methodIn [] name
    | .list .. => ofChanging ofLists name
    | .tuple .. => ofConstant ofTuples name
    | .dict .. => ofChanging ofDictionaries name
    | .mapping .. => ofChanging ofMappings name
    | .schema .. => methodIn ["test", "describe_failure"] name
    | .object _ _ traits => ofObject traits name
  match found, v with
  | some w, _ => .ok w
  | none, .object _ given traits =>
    if traits.raising.contains name then .error (.attributeFailed name)
    else match given.find? fun a => a.1 = name with
      | some a => .ok a.2
      | none => .error .noMember
  | none, _ => .error .noMember

/-- The attribute of that name; undefined if it is missing or cannot be read. -/
def member (v : Value) (name : String) : Value :=
  match v.attributeNamed name with
  | .ok w => w
  | .error _ => undefined

/-! ## Fields -/

/-- A field is looked up by key in a dictionary or a mapping, by attribute elsewhere. One that is
missing, or whose look-up fails, is undefined. -/
def field (v key : Value) : Value :=
  match v with
  | .dict _ es => (Entries.get? key es).getD undefined
  | .mapping _ es raising =>
    match key with
    | .str name => if raising.contains name then undefined else (Entries.get? key es).getD undefined
    | _ => (Entries.get? key es).getD undefined
  | v =>
    match key with
    | .str name => v.member name
    | _ => undefined

end Value
end Conform
