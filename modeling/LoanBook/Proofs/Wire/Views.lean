import LoanBook.Proofs.Wire.Scalars
import LoanBook.Wire.View

/-!
# Views read back from JSON

A view of a loan is read back from what is written of it, also when it was indented for a reader.
-/

namespace LoanBook

open Json (ReadsBack fields?_record)

/-- Two payments shown agree when they differ in nothing but the way their amounts are written. -/
structure PaymentView.Agrees (left right : PaymentView) : Prop where
  currency : left.currency = right.currency
  amount : left.amount ≈ right.amount
  due : left.due = right.due
  details : left.details = right.details

/-- Two borrowers shown agree when their amounts and payments do, and they are the same user. -/
structure BorrowerView.Agrees (left right : BorrowerView) : Prop where
  user : left.user = right.user
  principal : Option.Rel PaymentView.Agrees left.principal right.principal
  expectedPayments : List.Forall₂ PaymentView.Agrees left.expectedPayments right.expectedPayments
  repaymentTotal : left.repaymentTotal ≈ right.repaymentTotal

/-- Two lenders shown agree when their amounts and payments do, and they are the same user. -/
structure LenderView.Agrees (left right : LenderView) : Prop where
  user : left.user = right.user
  invested : left.invested ≈ right.invested
  payments : List.Forall₂ PaymentView.Agrees left.payments right.payments

/-- Two views agree when their borrowers and lenders do, and all else is the same. -/
structure LoanView.Agrees (left right : LoanView) : Prop where
  id : left.id = right.id
  state : left.state = right.state
  createdAt : left.createdAt = right.createdAt
  borrower : Option.Rel BorrowerView.Agrees left.borrower right.borrower
  lenders : List.Forall₂ LenderView.Agrees left.lenders right.lenders
  approval : left.approval = right.approval
  disbursement : left.disbursement = right.disbursement

namespace PaymentView

theorem readsBack : ReadsBack toJson ofJson? Agrees := by
  intro view
  obtain ⟨amount, read, agrees⟩ := Decimal.readsBack view.amount
  refine ⟨{ view with amount }, ?_, ⟨rfl, agrees, rfl, rfl⟩⟩
  rw [ofJson?, toJson, fields?_record rfl (by simp)]
  simp [read]

@[simp]
theorem isWellFormed_toJson (view : PaymentView) : view.toJson.IsWellFormed := by
  simp [toJson]

end PaymentView

namespace BorrowerView

theorem readsBack : ReadsBack toJson ofJson? Agrees := by
  intro view
  obtain ⟨principal, principalRead, principalAgrees⟩ :=
    PaymentView.readsBack.nullable (fun _ => Json.record_ne_null _) view.principal
  obtain ⟨expectedPayments, expectedRead, expectedAgree⟩ :=
    PaymentView.readsBack.list view.expectedPayments
  obtain ⟨repaymentTotal, totalRead, totalAgrees⟩ := Decimal.readsBack view.repaymentTotal
  refine ⟨{ view with principal, expectedPayments, repaymentTotal }, ?_,
    ⟨rfl, principalAgrees, expectedAgree, totalAgrees⟩⟩
  rw [ofJson?, toJson, fields?_record rfl (by simp)]
  simp [principalRead, expectedRead, totalRead]

@[simp]
theorem isWellFormed_toJson (view : BorrowerView) : view.toJson.IsWellFormed := by
  simp [toJson]

end BorrowerView

namespace LenderView

theorem readsBack : ReadsBack toJson ofJson? Agrees := by
  intro view
  obtain ⟨invested, investedRead, investedAgrees⟩ := Decimal.readsBack view.invested
  obtain ⟨payments, read, agree⟩ := PaymentView.readsBack.list view.payments
  refine ⟨{ view with invested, payments }, ?_, ⟨rfl, investedAgrees, agree⟩⟩
  rw [ofJson?, toJson, fields?_record rfl (by simp)]
  simp [investedRead, read]

@[simp]
theorem isWellFormed_toJson (view : LenderView) : view.toJson.IsWellFormed := by
  simp [toJson]

end LenderView

/-- A time that may be missing is read back. -/
@[simp]
theorem Calendar.Instant.asNullable?_toJson (time : Option Calendar.Instant) :
    Json.asNullable? ofJson? (.nullable toJson time) = some time :=
  Json.asNullable?_nullable ofJson?_toJson (fun _ => Json.text_ne_null _) time

namespace SignoffView

@[simp]
theorem ofJson?_toJson (view : SignoffView) : ofJson? view.toJson = some view := by
  rw [ofJson?, toJson, fields?_record rfl (by simp)]
  simp

@[simp]
theorem isWellFormed_toJson (view : SignoffView) : view.toJson.IsWellFormed := by
  simp [toJson]

@[simp]
theorem asNullable?_toJson (view : Option SignoffView) :
    Json.asNullable? ofJson? (.nullable toJson view) = some view :=
  Json.asNullable?_nullable ofJson?_toJson (fun _ => Json.record_ne_null _) view

end SignoffView

namespace LoanView

theorem readsBack : ReadsBack toJson ofJson? Agrees := by
  intro view
  obtain ⟨borrower, borrowerRead, borrowerAgrees⟩ :=
    BorrowerView.readsBack.nullable (fun _ => Json.record_ne_null _) view.borrower
  obtain ⟨lenders, lendersRead, lendersAgree⟩ := LenderView.readsBack.list view.lenders
  refine ⟨{ view with borrower, lenders }, ?_,
    ⟨rfl, rfl, rfl, borrowerAgrees, lendersAgree, rfl, rfl⟩⟩
  rw [ofJson?, toJson, fields?_record rfl (by simp)]
  simp [borrowerRead, lendersRead]

theorem isWellFormed_toJson (view : LoanView) : view.toJson.IsWellFormed := by
  simp [toJson]

end LoanView

end LoanBook
