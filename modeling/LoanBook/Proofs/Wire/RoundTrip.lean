import LoanBook.Proofs.Wire.Configurations
import LoanBook.Proofs.Wire.Loans
import LoanBook.Proofs.Wire.Requests
import LoanBook.Proofs.Wire.Views

/-!
# What is written is read back

Requests, loans, views and configurations are read back from their JSON texts.  What is read agrees
with what was written: it is the same but for the sign of an amount of zero, which is the same
number.
-/

namespace LoanBook

/-- Every request, loan and view is read back from its text, and so is every configuration that
passes its check; views also from their indented text. -/
theorem texts_read_back :
    (∀ request : TransitionRequest, ∃ found,
      TransitionRequest.ofText? request.toText = some found ∧ request.Agrees found) ∧
    (∀ loan : Loan, ∃ found,
      (Json.read? loan.toJson.compact).bind Loan.ofJson? = some found ∧ loan.Agrees found) ∧
    (∀ view : LoanView, ∃ found, view.Agrees found ∧
      (Json.read? view.toJson.compact).bind LoanView.ofJson? = some found ∧
      (Json.read? view.toPrettyText).bind LoanView.ofJson? = some found) ∧
    ∀ config : LoanConfig, config.check = .ok () → ∃ found,
      LoanConfig.ofText config.toText = .ok found ∧ config.Agrees found := by
  refine ⟨TransitionRequest.exists_ofText?_toText, fun loan => ?_, fun view => ?_,
    fun config passes => LoanConfig.exists_ofText_toText passes⟩
  · rw [Json.read?_compact loan.isWellFormed_toJson, Option.bind_some]
    exact Loan.readsBack loan
  · obtain ⟨found, read, agrees⟩ := LoanView.readsBack view
    refine ⟨found, agrees, ?_, ?_⟩
    · rw [Json.read?_compact view.isWellFormed_toJson, Option.bind_some, read]
    · rw [LoanView.toPrettyText, Json.read?_pretty view.isWellFormed_toJson, Option.bind_some, read]

/-- The standard product with a service fee of zero, written `-0.00`. -/
def LoanConfig.feeless : LoanConfig :=
  { LoanConfig.standard with
    pricing := ⟨.ofPercentage 10, ⟨(Decimal.zeroOfScale 2 (by decide)).negate⟩, .ofPercentage 1⟩ }

theorem texts_read_back_feeless :
    LoanConfig.feeless.check = .ok () ∧ ∃ found,
      LoanConfig.ofText LoanConfig.feeless.toText = .ok found ∧
      LoanConfig.feeless.Agrees found := by
  have passes : LoanConfig.feeless.check = .ok () := by decide +kernel
  exact ⟨passes, texts_read_back.2.2.2 LoanConfig.feeless passes⟩

end LoanBook
