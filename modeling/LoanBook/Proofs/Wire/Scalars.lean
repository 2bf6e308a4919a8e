import LoanBook.Proofs.Calendar.Reading
import LoanBook.Proofs.Decimal.Reading
import LoanBook.Proofs.Json.Records
import LoanBook.Proofs.Text.Base64
import LoanBook.Wire.Configuration
import LoanBook.Wire.Loan

/-!
# Plain values read back from JSON

Every plain value is read back as it is, except that an amount or a rate of zero loses its sign.
-/

namespace LoanBook

namespace Json

@[simp]
theorem text_ne_null (value : String) : text value ≠ .null :=
  nofun

@[simp]
theorem record_ne_null (members : List (String × Json)) : record members ≠ .null :=
  nofun

end Json

/-! ## Amounts and rates -/

theorem Decimal.readsBack : Json.ReadsBack toJson ofJson? (· ≈ ·) := by
  intro value
  exact ⟨value.plain, ofText?_toText value, Eq.symm value.plain_equiv⟩

@[simp]
theorem Decimal.isWellFormed_toJson (value : Decimal) : value.toJson.IsWellFormed :=
  Json.isWellFormed_text _

theorem Rate.readsBack : Json.ReadsBack toJson ofJson? (fun left right =>
    left.decimal ≈ right.decimal) := by
  intro rate
  obtain ⟨decimal, read, agrees⟩ := Decimal.readsBack rate.decimal
  exact ⟨⟨decimal⟩, by simp [ofJson?, toJson, read], agrees⟩

@[simp]
theorem Rate.isWellFormed_toJson (rate : Rate) : rate.toJson.IsWellFormed :=
  rate.decimal.isWellFormed_toJson

/-! ## Instants and names -/

namespace Calendar.Instant

@[simp]
theorem ofJson?_toJson (instant : Instant) : ofJson? instant.toJson = some instant := by
  simp [ofJson?, toJson]

@[simp]
theorem isWellFormed_toJson (instant : Instant) : instant.toJson.IsWellFormed :=
  Json.isWellFormed_text _

end Calendar.Instant

namespace Identifier

variable {kind : IdentifierKind} (identifier : Identifier kind)

@[simp]
theorem ofText?_toText : ofText? identifier.toText = some identifier := by
  simp [ofText?, ofText, toText, ofBytes?, identifier.length_eq, Except.toOption]

@[simp]
theorem ofJson?_toJson : ofJson? identifier.toJson = some identifier := by
  simp [ofJson?, toJson]

@[simp]
theorem isWellFormed_toJson : identifier.toJson.IsWellFormed :=
  Json.isWellFormed_text _

end Identifier

@[simp]
theorem UserId.ofJson?_toJson (user : UserId) : ofJson? user.toJson = some user := by
  simp [ofJson?, toJson]

@[simp]
theorem UserId.isWellFormed_toJson (user : UserId) : user.toJson.IsWellFormed :=
  Json.isWellFormed_text _

@[simp]
theorem LoanState.ofJson?_toJson (state : LoanState) : ofJson? state.toJson = some state := by
  cases state <;> rfl

@[simp]
theorem LoanState.isWellFormed_toJson (state : LoanState) : state.toJson.IsWellFormed :=
  Json.isWellFormed_text _

@[simp]
theorem PartyRole.ofJson?_toJson (role : PartyRole) : ofJson? role.toJson = some role := by
  cases role <;> rfl

@[simp]
theorem PartyRole.isWellFormed_toJson (role : PartyRole) : role.toJson.IsWellFormed :=
  Json.isWellFormed_text _

@[simp]
theorem CoveredOfferPolicy.ofJson?_toJson (policy : CoveredOfferPolicy) :
    ofJson? policy.toJson = some policy := by
  cases policy <;> rfl

@[simp]
theorem CoveredOfferPolicy.isWellFormed_toJson (policy : CoveredOfferPolicy) :
    policy.toJson.IsWellFormed :=
  Json.isWellFormed_text _

/-! ## Attestations -/

namespace Attestation

@[simp]
theorem ofJson?_toJson (attestation : Attestation) :
    ofJson? attestation.toJson = some attestation := by
  rw [ofJson?, toJson, Json.fields?_record rfl (by simp)]
  simp [bytesOfJson?, Except.toOption]

@[simp]
theorem isWellFormed_toJson (attestation : Attestation) : attestation.toJson.IsWellFormed := by
  simp [toJson]

/-- What may be attested is read back with its attestation, if it has one. -/
@[simp]
theorem asNullable?_toJson (attestation : Option Attestation) :
    Json.asNullable? ofJson? (.nullable toJson attestation) = some attestation :=
  Json.asNullable?_nullable ofJson?_toJson (fun _ => Json.record_ne_null _) attestation

end Attestation

end LoanBook
