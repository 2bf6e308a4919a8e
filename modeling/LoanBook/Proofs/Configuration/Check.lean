import LoanBook.Configuration
import LoanBook.Proofs.Failure.Steps

/-!
# The check of a configuration

A configuration passes its check when its rates are portions, it has installments, and its smallest
offer is at most half of the principal.  That depends on the rates and not on how they are written.
-/

namespace LoanBook

theorem Rate.isPortion_congr {left right : Rate} (same : left.decimal ≈ right.decimal) :
    left.IsPortion ↔ right.IsPortion := by
  rw [Decimal.equiv_def] at same
  simp only [Rate.IsPortion, Decimal.le_def, same]

namespace LoanConfig

theorem checkRate_eq_ok_iff {entry : String × Rate} :
    checkRate entry = .ok () ↔ entry.2.IsPortion := by
  unfold checkRate
  split
  · simp [*]
  · rename_i outside
    cases entry.2.display? with
    | none => simp [granted, bind, Except.bind, outside]
    | some shown => simp [granted, bind, Except.bind, reject, outside]

theorem check_eq_ok_iff {config : LoanConfig} :
    config.check = .ok () ↔ (∀ entry ∈ config.rates, entry.2.IsPortion) ∧
      config.installmentCount ≠ 0 ∧
      ¬ Decimal.half < config.investment.minInvestmentRate.decimal := by
  have rates : config.rates.forM checkRate = .ok () ↔
      ∀ entry ∈ config.rates, entry.2.IsPortion := by
    simp only [forM_eq_ok_iff, checkRate_eq_ok_iff]
  rw [← rates, check, bind_eq_ok_iff]
  by_cases none : config.installmentCount = 0
  · simp [none, reject]
  · by_cases above : Decimal.half < config.investment.minInvestmentRate.decimal
    · cases config.investment.minInvestmentRate.display? with
      | none => simp [none, above, granted, bind, Except.bind]
      | some shown => simp [none, above, granted, bind, Except.bind, reject]
    · simp only [none, above, if_false]
      exact ⟨fun ⟨(), passed, _⟩ => ⟨passed, none, not_false⟩, fun ⟨passed, _⟩ => ⟨(), passed, trivial⟩⟩

section Valid

variable {config : LoanConfig} (valid : config.check = .ok ())
include valid

theorem interestRate_isPortion : config.pricing.interestRate.IsPortion :=
  (check_eq_ok_iff.mp valid).1 (_, _) (List.mem_cons_self)

theorem serviceFeeRate_isPortion : config.pricing.serviceFeeRate.IsPortion :=
  (check_eq_ok_iff.mp valid).1 (_, _) (List.mem_cons_of_mem _ List.mem_cons_self)

theorem lenderInterestRate_isPortion : config.pricing.lenderInterestRate.IsPortion :=
  (check_eq_ok_iff.mp valid).1 (_, _)
    (List.mem_cons_of_mem _ (List.mem_cons_of_mem _ List.mem_cons_self))

theorem minInvestmentRate_isPortion : config.investment.minInvestmentRate.IsPortion :=
  (check_eq_ok_iff.mp valid).1 (_, _)
    (List.mem_cons_of_mem _ (List.mem_cons_of_mem _ (List.mem_cons_of_mem _ List.mem_cons_self)))

theorem installmentCount_ne_zero : config.installmentCount ≠ 0 :=
  (check_eq_ok_iff.mp valid).2.1

end Valid

/-- Configurations that agree pass the check together. -/
theorem Agrees.check {left right : LoanConfig} (agrees : left.Agrees right)
    (passes : left.check = .ok ()) : right.check = .ok () := by
  obtain ⟨interest, serviceFee, lenderInterest, count, minimum, _⟩ := agrees
  rw [check_eq_ok_iff] at passes ⊢
  simp only [rates, List.forall_mem_cons, Rate.isPortion_congr interest,
    Rate.isPortion_congr serviceFee, Rate.isPortion_congr lenderInterest,
    Rate.isPortion_congr minimum, count, Decimal.lt_def] at passes ⊢
  rw [Decimal.equiv_def] at minimum
  rwa [minimum] at passes

end LoanConfig

end LoanBook
