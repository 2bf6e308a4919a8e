import LoanBook.Proofs.Allocation.Subtraction
import LoanBook.Proofs.Wire.Scalars
import LoanBook.Wire.Request

/-!
# Requests read back from JSON

A request is read back from what is written of it, with the same texts, identifiers and instants,
the offers in their order, and every amount as the same number.
-/

namespace LoanBook

open Json (ReadsBack fields?_record)

namespace Money

theorem readsBack : ReadsBack toJson ofJson? (· ≈ ·) := by
  intro money
  obtain ⟨amount, read, agrees⟩ := Decimal.readsBack money.amount
  refine ⟨{ money with amount }, ?_, rfl, agrees, rfl, rfl⟩
  rw [ofJson?, toJson, fields?_record rfl (by simp)]
  simp [read]

@[simp]
theorem isWellFormed_toJson (money : Money) : money.toJson.IsWellFormed := by
  simp [toJson]

end Money

namespace LenderOffer

theorem readsBack : ReadsBack toJson ofJson? Agrees := by
  intro offer
  obtain ⟨payment, read, agrees⟩ := Money.readsBack offer.payment
  have contract : Json.asNullable? Json.asText? (.nullable .text offer.contract) =
      some offer.contract :=
    Json.asNullable?_nullable Json.asText?_text Json.text_ne_null offer.contract
  refine ⟨{ offer with payment }, ?_, rfl, rfl, agrees⟩
  rw [ofJson?, toJson, fields?_record rfl (by simp)]
  simp [read, contract]

@[simp]
theorem isWellFormed_toJson (offer : LenderOffer) : offer.toJson.IsWellFormed := by
  simp [toJson]

end LenderOffer

/-- Two requests agree when they differ in nothing but the way their amounts are written. -/
inductive TransitionRequest.Agrees : TransitionRequest → TransitionRequest → Prop where
  | propose (borrower : UserId) {left right : Money} (principal : left ≈ right) :
      Agrees (.propose ⟨borrower, left⟩) (.propose ⟨borrower, right⟩)
  | approve (request : ApproveRequest) : Agrees (.approve request) (.approve request)
  | invest (loan : LoanId) {left right : List LenderOffer}
      (offers : List.Forall₂ LenderOffer.Agrees left right) :
      Agrees (.invest ⟨loan, left⟩) (.invest ⟨loan, right⟩)
  | disburse (request : DisburseRequest) : Agrees (.disburse request) (.disburse request)

@[simp]
theorem ApproveRequest.ofJson?_toJson (request : ApproveRequest) :
    ofJson? request.toJson = some request := by
  rw [ofJson?, toJson, fields?_record rfl (by simp)]
  simp

@[simp]
theorem DisburseRequest.ofJson?_toJson (request : DisburseRequest) :
    ofJson? request.toJson = some request := by
  rw [ofJson?, toJson, fields?_record rfl (by simp)]
  simp

namespace TransitionRequest

/-- The only member of a request names the state that the loan moves into. -/
theorem asChoice?_record (name : String) (contents : Json) :
    (Json.record [(name, contents)]).asChoice? = some (name, contents) :=
  rfl

theorem readsBack : ReadsBack toJson ofJson? Agrees := by
  intro request
  cases request with
  | propose request =>
      obtain ⟨principal, read, agrees⟩ := Money.readsBack request.principal
      refine ⟨.propose ⟨request.borrower, principal⟩, ?_, .propose request.borrower agrees⟩
      rw [ofJson?, toJson, asChoice?_record, ProposeRequest.toJson]
      simp [ProposeRequest.ofJson?, fields?_record, Json.Field.needed, read]
  | approve request =>
      refine ⟨.approve request, ?_, .approve request⟩
      simp [ofJson?, toJson, asChoice?_record]
  | invest request =>
      obtain ⟨offers, read, agree⟩ := LenderOffer.readsBack.list request.offers
      refine ⟨.invest ⟨request.loan, offers⟩, ?_, .invest request.loan agree⟩
      rw [ofJson?, toJson, asChoice?_record, InvestRequest.toJson]
      simp [InvestRequest.ofJson?, fields?_record, Json.Field.needed, read]
  | disburse request =>
      refine ⟨.disburse request, ?_, .disburse request⟩
      simp [ofJson?, toJson, asChoice?_record]

theorem isWellFormed_toJson (request : TransitionRequest) : request.toJson.IsWellFormed := by
  cases request with
  | propose request => simp [toJson, ProposeRequest.toJson]
  | approve request => simp [toJson, ApproveRequest.toJson]
  | invest request =>
      have offers : (Json.list LenderOffer.toJson request.offers).IsWellFormed :=
        Json.isWellFormed_list LenderOffer.isWellFormed_toJson
      simp [toJson, InvestRequest.toJson, offers]
  | disburse request => simp [toJson, DisburseRequest.toJson]

/-- A request is read back from its text. -/
theorem exists_ofText?_toText (request : TransitionRequest) :
    ∃ found, ofText? request.toText = some found ∧ request.Agrees found := by
  rw [ofText?, toText, Json.read?_compact request.isWellFormed_toJson]
  exact readsBack request

end TransitionRequest

end LoanBook
