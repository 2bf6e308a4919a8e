import LoanBook.Proofs.Wire.Scalars

/-!
# Loans read back from JSON

A loan is read back from what is written of it, with its parties and their payments in order, and
every attestation with its seal.  The amounts are the same numbers.
-/

namespace LoanBook

open Json (ReadsBack fields?_record)

/-- Two payments agree when they differ in nothing but the way their amounts are written. -/
def Payment.Agrees (left right : Payment) : Prop :=
  left.toMoney ≈ right.toMoney ∧ left.created = right.created

/-- Two parties agree when their payments do, one by one, and all else is the same. -/
structure LoanParty.Agrees (left right : LoanParty) : Prop where
  id : left.id = right.id
  user : left.user = right.user
  role : left.role = right.role
  payments : List.Forall₂ Payment.Agrees left.payments right.payments
  created : left.created = right.created

/-- Two loans agree when their parties do, one by one, and all else is the same. -/
structure Loan.Agrees (left right : Loan) : Prop where
  id : left.id = right.id
  state : left.state = right.state
  parties : List.Forall₂ LoanParty.Agrees left.parties right.parties
  approval : left.approval = right.approval
  disbursement : left.disbursement = right.disbursement
  created : left.created = right.created

namespace Payment

theorem readsBack : ReadsBack toJson ofJson? Agrees := by
  intro payment
  obtain ⟨amount, read, agrees⟩ := Decimal.readsBack payment.amount
  refine ⟨{ payment with amount }, ?_, ⟨rfl, agrees, rfl, rfl⟩, rfl⟩
  rw [ofJson?, toJson, fields?_record rfl (by simp)]
  simp [read]

@[simp]
theorem isWellFormed_toJson (payment : Payment) : payment.toJson.IsWellFormed := by
  simp [toJson]

end Payment

namespace LoanParty

theorem readsBack : ReadsBack toJson ofJson? Agrees := by
  intro party
  obtain ⟨payments, read, agree⟩ := Payment.readsBack.list party.payments
  refine ⟨{ party with payments }, ?_, ⟨rfl, rfl, rfl, agree, rfl⟩⟩
  rw [ofJson?, toJson, fields?_record rfl (by simp)]
  simp [read]

@[simp]
theorem isWellFormed_toJson (party : LoanParty) : party.toJson.IsWellFormed := by
  simp [toJson]

end LoanParty

namespace Approval

@[simp]
theorem ofJson?_toJson (approval : Approval) : ofJson? approval.toJson = some approval := by
  rw [ofJson?, toJson, fields?_record rfl (by simp)]
  simp

@[simp]
theorem isWellFormed_toJson (approval : Approval) : approval.toJson.IsWellFormed := by
  simp [toJson]

end Approval

namespace Disbursement

@[simp]
theorem ofJson?_toJson (disbursement : Disbursement) :
    ofJson? disbursement.toJson = some disbursement := by
  rw [ofJson?, toJson, fields?_record rfl (by simp)]
  simp

@[simp]
theorem isWellFormed_toJson (disbursement : Disbursement) :
    disbursement.toJson.IsWellFormed := by
  simp [toJson]

end Disbursement

namespace Loan

theorem readsBack : ReadsBack toJson ofJson? Agrees := by
  intro loan
  obtain ⟨parties, read, agree⟩ := LoanParty.readsBack.list loan.parties
  have approval := Json.asNullable?_nullable Approval.ofJson?_toJson
    (fun _ => Json.record_ne_null _) loan.approval
  have disbursement := Json.asNullable?_nullable Disbursement.ofJson?_toJson
    (fun _ => Json.record_ne_null _) loan.disbursement
  refine ⟨{ loan with parties }, ?_, ⟨rfl, rfl, agree, rfl, rfl, rfl⟩⟩
  rw [ofJson?, toJson, fields?_record rfl (by simp)]
  simp [read, approval, disbursement]

theorem isWellFormed_toJson (loan : Loan) : loan.toJson.IsWellFormed := by
  simp [toJson]

end Loan

end LoanBook
