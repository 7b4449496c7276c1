import Conform.Schema.Basic

/-! Schemas by name: the five primitives, and the records of persons and members. -/

namespace Conform
set_option autoImplicit false

namespace Schema

def string : Schema := .kind Kind.string.name
def number : Schema := .kind Kind.number.name
def boolean : Schema := .kind Kind.boolean.name
def symbol : Schema := .kind Kind.symbol.name

/-! ## Persons and members -/

def cities : List String :=
  ["Kraków", "Oaxaca", "Moscow", "Kabul", "Baghdad", "Kuala, Lumpur", "Jeddah", "Riyadh",
    "Mogadishu", "Dubai", "Abu Dhabi", "Sanaa", "Ibadan", "Taizz", "Tehran"]

def oneOfStrings (options : List String) : Schema := .oneOf (options.map Value.str)

def person : Schema :=
  object [
    (.str "name", string.rangeLength (.int 1) (.int 32)),
    (.str "age", .nullable (number.min (.int 0))),
    (.str "sex", .union [.literal (.str "man"), .literal (.str "woman")]),
    (.str "city", .nullable (oneOfStrings cities))]

def memberRole : Schema := oneOfStrings ["admin", "moderator", "user"]

/-- A member is a person with an identifier and a role. -/
def member : Schema :=
  .intersection [person, object [(.str "id", string), (.str "role", memberRole)]]

end Schema
end Conform
