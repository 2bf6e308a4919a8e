import LoanBook.Calendar.Timestamp
import LoanBook.Json.Record
import LoanBook.Loan.Basic

/-!
# Plain values as JSON

Decimals, rates, instants, identifiers, users, states and roles are written as strings. A decimal
may also be read from a number: an integer as it is, any other by its shortest decimal.
-/

namespace LoanBook

namespace Decimal

/-- A decimal as a string, with all its places. -/
def toJson (value : Decimal) : Json := .text value.toText

def ofJson? : Json → Option Decimal
  | .string text => text.bind ofText?
  | .number numeral => numeral.positional?.bind ofChars?
  | _ => none

end Decimal

namespace Rate

/-- A rate as the string of its decimal. -/
def toJson (rate : Rate) : Json := rate.decimal.toJson

def ofJson? (document : Json) : Option Rate := (Decimal.ofJson? document).map Rate.mk

end Rate

namespace Calendar.Instant

def toJson (instant : Instant) : Json := .text instant.toText

def ofJson? (document : Json) : Option Instant := document.asText?.bind ofText?

end Calendar.Instant

namespace Identifier

variable {kind : IdentifierKind}

def toJson (identifier : Identifier kind) : Json := .text identifier.toText

def ofJson? (document : Json) : Option (Identifier kind) := document.asText?.bind ofText?

end Identifier

namespace UserId

def toJson (user : UserId) : Json := .text user.name

def ofJson? (document : Json) : Option UserId := document.asText?.map UserId.mk

end UserId

namespace LoanState

def toJson (state : LoanState) : Json := .text state.word

def ofJson? (document : Json) : Option LoanState := document.asName?.bind ofWord?

end LoanState

namespace PartyRole

def toJson (role : PartyRole) : Json := .text role.word

def ofJson? (document : Json) : Option PartyRole := document.asName?.bind ofWord?

end PartyRole

end LoanBook
