import LoanBook.Json.Numeral

/-!
# JSON documents

A document keeps its numerals as written and its objects as lists of members, repeated keys
included, because it depends on the reader what they mean. A string literal whose escapes name
half of a surrogate pair is well formed but has no text; it is kept as `none`.
-/

namespace LoanBook

/-- A JSON document. -/
inductive Json where
  | null
  | bool (value : Bool)
  | number (numeral : Json.Numeral)
  | string (text : Option String)
  | array (elements : List Json)
  | object (members : List (Option String × Json))

namespace Json

def text (value : String) : Json := .string (some value)

def int (value : Int) : Json := .number (.ofInt value)

/-- An object with the given members. -/
def record (members : List (String × Json)) : Json :=
  .object (members.map fun entry => (some entry.1, entry.2))

/-- The value, or null. -/
def nullable {α : Type} (write : α → Json) : Option α → Json
  | none => .null
  | some value => write value

/-- An array of values. -/
def list {α : Type} (write : α → Json) (values : List α) : Json :=
  .array (values.map write)

end Json

end LoanBook
