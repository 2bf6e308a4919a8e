import LoanBook.Proofs.Allocation.Steps
import LoanBook.Proofs.Schedule.Failures

/-!
# Failures of an allocation

An allocation is made of steps that fail for reasons of money only: an overflow, an amount or a rate
out of bounds, or a currency.  So does the allocation, and it never blames the loan for being absent
or in a wrong state.
-/

namespace LoanBook

/-- The failure of a split by ratio that takes another amount than the one outstanding. -/
def Failure.IsMissedSplit (failure : Failure) : Prop :=
  ∃ offer lender taken outstanding,
    failure = .rejected (.validation (.splitMissed offer lender taken outstanding))

namespace AllocationTerms

theorem use_failsOnMoney (terms : AllocationTerms) (bounds : AllocationBounds)
    (offer : LenderOffer) (investment : Money) :
    FailsOnMoney (terms.use bounds offer investment) := by
  refine .bind (investment.split_failsOnMoney _) fun interest => ?_
  exact .bind (investment.sum_refuses _).onMoney fun _ => .ok _

/-- An overfill may miss the outstanding amount, and otherwise fails for reasons of money. -/
theorem overfill_failsWithin (offer : LenderOffer) (outstanding : Decimal) :
    FailsWithin (fun failure => failure.IsMonetary ∨ failure.IsMissedSplit)
      (overfill offer outstanding) := by
  unfold overfill
  split
  · exact .reject (Or.inl trivial)
  · refine .bind ((offer.payment.split_failsOnMoney _).mono fun _ => Or.inl) fun split => ?_
    split
    · exact .ok _
    · exact .reject (Or.inr ⟨_, _, _, _, rfl⟩)

section Divide

variable {divide : LenderOffer → Decimal → Except Failure Split} {cause : Failure → Prop}
  (monetary : ∀ failure : Failure, failure.IsMonetary → cause failure)
  (divideFails : ∀ offer outstanding, FailsWithin cause (divide offer outstanding))
include monetary divideFails

theorem fillBy_failsWithin (terms : AllocationTerms) (bounds : AllocationBounds)
    (progress : AllocationProgress) (offers : List LenderOffer) :
    FailsWithin cause (terms.fillBy divide bounds progress offers) := by
  induction offers generalizing progress with
  | nil => exact .reject (monetary _ trivial)
  | cons listed rest ih =>
      rw [fillBy_cons]
      refine .bind (step_failsWithin (fun _ _ => monetary _ trivial)
        (fun money => money.rounded_refuses.onMoney.mono monetary)
        (fun offer investment => (terms.use_failsOnMoney bounds offer investment).mono monetary)
        divideFails
        (fun money other => (money.minus_refuses other).onMoney.mono monetary)) fun next => ?_
      split
      · exact .ok _
      · exact ih _

theorem allocateBy_failsWithin (terms : AllocationTerms) (loan : LoanId) (principal : Money)
    (offers : List LenderOffer) (now : Calendar.Instant) :
    FailsWithin cause (terms.allocateBy divide loan principal offers now) := by
  refine .bind (principal.rounded_refuses.onMoney.mono monetary) fun rounded => ?_
  refine .bind ((Money.split_failsOnMoney _ _).mono monetary) fun share => ?_
  refine .bind ((dueAfter_refuses now _).onMoney.mono monetary) fun due => ?_
  exact fillBy_failsWithin monetary divideFails terms _ _ offers

end Divide

/-- An allocation fails for reasons of money only, a missed split among them. -/
theorem allocate_failsWithin (terms : AllocationTerms) (loan : LoanId) (principal : Money)
    (offers : List LenderOffer) (now : Calendar.Instant) :
    FailsWithin (fun failure => failure.IsMonetary ∨ failure.IsMissedSplit)
      (terms.allocate loan principal offers now) :=
  allocateBy_failsWithin (fun _ => Or.inl) overfill_failsWithin terms loan principal offers now

/-- A failed allocation blames no loan for being absent or in a wrong state. -/
theorem allocate_blames_no_loan {terms : AllocationTerms} {loan : LoanId} {principal : Money}
    {offers : List LenderOffer} {now : Calendar.Instant} {failure : Failure}
    (failed : terms.allocate loan principal offers now = .error failure) (blamed : LoanId)
    (expected : LoanState) :
    failure ≠ .rejected (.loanNotFound blamed) ∧
      failure ≠ .rejected (.stateConflict blamed expected) := by
  have causes := allocate_failsWithin terms loan principal offers now failure failed
  constructor
  · rintro rfl
    rcases causes with monetary | ⟨_, _, _, _, missed⟩
    · exact monetary
    · cases missed
  · rintro rfl
    rcases causes with monetary | ⟨_, _, _, _, missed⟩
    · exact monetary
    · cases missed

end AllocationTerms

end LoanBook
