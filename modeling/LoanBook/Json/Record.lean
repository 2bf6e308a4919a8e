import LoanBook.Json.Basic

/-!
# Reading values from JSON

The rules by which a document is read as a value of a known shape. A record is an object, in which
unknown members are passed over and a known key may not come twice, or the array of its fields in
order. A choice without contents is its name, or an object whose only member has that name and the
value null; a choice with contents is an object whose only member names it.
-/

namespace LoanBook.Json

/-- Whether a field must be there, reads as null when it is missing, or has a default. -/
inductive Presence where
  | required
  | nullable
  | defaulted
deriving DecidableEq

/-- A field of a record. -/
structure Field where
  name : String
  presence : Presence

/-- A field that must be there. -/
def Field.needed (name : String) : Field := ⟨name, .required⟩

/-- A field that reads as null when it is missing. -/
def Field.optional (name : String) : Field := ⟨name, .nullable⟩

/-- A field that may be left out altogether. -/
def Field.withDefault (name : String) : Field := ⟨name, .defaulted⟩

/-- The values of all members with the given key. -/
def membersNamed (name : String) (members : List (Option String × Json)) : List Json :=
  (members.filter fun entry => entry.1 == some name).map Prod.snd

/-- The value of a field in an object; the inner option is empty for a field left to its
default. -/
def Field.inObject? (members : List (Option String × Json)) (field : Field) :
    Option (Option Json) :=
  match membersNamed field.name members with
  | [value] => some (some value)
  | _ :: _ => none
  | [] =>
    match field.presence with
    | .required => none
    | .nullable => some (some .null)
    | .defaulted => some none

/-- The values of the fields in an array, which holds them in order and may end early only before
fields with a default. -/
def inArray? : List Field → List Json → Option (List (Option Json))
  | [], [] => some []
  | [], _ :: _ => none
  | field :: fields, [] =>
    if field.presence = .defaulted then (inArray? fields []).map (none :: ·) else none
  | _ :: fields, value :: values => (inArray? fields values).map (some value :: ·)

/-- The values of the fields of a record. -/
def fields? (fields : List Field) : Json → Option (List (Option Json))
  | .object members =>
    if members.all (fun entry => entry.1.isSome) then fields.mapM (Field.inObject? members)
    else none
  | .array elements => inArray? fields elements
  | _ => none

def asText? : Json → Option String
  | .string text => text
  | _ => none

/-- Reads an integer in the 64-bit range. -/
def asInt? : Json → Option Int
  | .number numeral => numeral.int?
  | _ => none

/-- Reads an unsigned 32-bit integer. -/
def asUInt32? (document : Json) : Option UInt32 :=
  document.asInt?.bind fun value =>
    if 0 ≤ value ∧ value < 2 ^ 32 then some (UInt32.ofNat value.toNat) else none

/-- Reads a signed 64-bit integer. -/
def asInt64? (document : Json) : Option Int64 :=
  document.asInt?.bind fun value =>
    if value < 2 ^ 63 then some (Int64.ofInt value) else none

def asNullable? {α : Type} (read? : Json → Option α) : Json → Option (Option α)
  | .null => some none
  | document => (read? document).map some

def asList? {α : Type} (read? : Json → Option α) : Json → Option (List α)
  | .array elements => elements.mapM read?
  | _ => none

def asName? : Json → Option String
  | .string name => name
  | .object [(name, .null)] => name
  | _ => none

def asChoice? : Json → Option (String × Json)
  | .object [(some name, contents)] => some (name, contents)
  | _ => none

end LoanBook.Json
