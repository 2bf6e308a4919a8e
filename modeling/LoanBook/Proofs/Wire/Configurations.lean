import LoanBook.Proofs.Configuration.Check
import LoanBook.Proofs.Wire.Scalars

/-!
# Configurations read back from JSON

A configuration that passes its check is read back from its text, and passes the check again.
-/

namespace LoanBook

open Json (ReadsBack fields?_record)

namespace LoanConfig

theorem installmentCountOfJson?_int (count : UInt32) :
    installmentCountOfJson? (.record [("installment_count", .int count.toNat)]) = some count := by
  rw [installmentCountOfJson?, fields?_record rfl (by simp)]
  simp

theorem readsBack : ReadsBack toJson ofJson? Agrees := by
  intro config
  obtain ⟨interest, interestRead, interestAgrees⟩ := Rate.readsBack config.pricing.interestRate
  obtain ⟨serviceFee, serviceFeeRead, serviceFeeAgrees⟩ :=
    Rate.readsBack config.pricing.serviceFeeRate
  obtain ⟨lenderInterest, lenderInterestRead, lenderInterestAgrees⟩ :=
    Rate.readsBack config.pricing.lenderInterestRate
  obtain ⟨minimum, minimumRead, minimumAgrees⟩ :=
    Rate.readsBack config.investment.minInvestmentRate
  have pricing : PricingTerms.ofJson? config.pricing.toJson =
      some ⟨interest, serviceFee, lenderInterest⟩ := by
    rw [PricingTerms.ofJson?, PricingTerms.toJson, fields?_record rfl (by simp)]
    simp [interestRead, serviceFeeRead, lenderInterestRead]
  have investment : InvestmentTerms.ofJson? config.investment.toJson =
      some ⟨minimum, config.investment.coveredOfferPolicy⟩ := by
    rw [InvestmentTerms.ofJson?, InvestmentTerms.toJson, fields?_record rfl (by simp)]
    simp [minimumRead]
  refine ⟨⟨⟨interest, serviceFee, lenderInterest⟩, config.installmentCount,
    ⟨minimum, config.investment.coveredOfferPolicy⟩⟩, ?_,
    ⟨interestAgrees, serviceFeeAgrees, lenderInterestAgrees, rfl, minimumAgrees, rfl⟩⟩
  rw [ofJson?, toJson, fields?_record rfl (by simp)]
  simp [pricing, installmentCountOfJson?_int, investment]

theorem isWellFormed_toJson (config : LoanConfig) : config.toJson.IsWellFormed := by
  have pricing : config.pricing.toJson.IsWellFormed := by simp [PricingTerms.toJson]
  have investment : config.investment.toJson.IsWellFormed := by simp [InvestmentTerms.toJson]
  simp [toJson, pricing, investment]

/-- A configuration that passes its check is read back from its text. -/
theorem exists_ofText_toText {config : LoanConfig} (passes : config.check = .ok ()) :
    ∃ found, ofText config.toText = .ok found ∧ config.Agrees found := by
  obtain ⟨found, read, agrees⟩ := readsBack config
  refine ⟨found, ?_, agrees⟩
  rw [ofText, toText, Json.read?_compact config.isWellFormed_toJson, Option.bind_some, read]
  dsimp only
  rw [agrees.check passes]
  rfl

end LoanConfig

end LoanBook
