import LoanBook.Proofs.Allocation.Conservation
import LoanBook.Proofs.Allocation.Failures
import LoanBook.Proofs.Rate.Ratios

/-!
# Failures that an allocation foresees

Offers above zero in minor units are allocated against a principal above zero without an overflow
and without a portion out of bounds, however large they are.  What is outstanding stays above zero
until the allocation is closed, so its ratio to a larger offer is always a portion.
-/

namespace LoanBook

/-- An offer of an amount above zero, in minor units of its currency. -/
def LenderOffer.IsSound (offer : LenderOffer) : Prop :=
  (∃ own, offer.payment.IsMinor own) ∧ 0 < offer.payment.units

namespace AllocationTerms

variable {terms : AllocationTerms} {bounds : AllocationBounds} {places : Nat}

theorem ratio?_isPortion {outstanding amount : Decimal} {portion : Rate}
    (positive : 0 < outstanding.units) (atMost : outstanding.units ≤ amount.units)
    (ratio : Rate.ratio? outstanding amount = some portion) : portion.IsPortion := by
  obtain ⟨rate, ratioEq, isPortion, _⟩ :=
    Rate.exists_ratio? (Int.le_of_lt positive) atMost (Int.lt_of_lt_of_le positive atMost)
  cases ratio.symm.trans ratioEq
  exact isPortion

/-- An offer is split by ratio without a failure other than missing what is outstanding. -/
theorem overfill_foreseen {offer : LenderOffer} {outstanding : Decimal}
    (minor : offer.payment.IsMinor places) (positive : 0 < outstanding.units)
    (atMost : outstanding.units ≤ offer.payment.units) :
    FailsWithin Failure.IsForeseen (overfill offer outstanding) := by
  unfold overfill
  cases ratio : Rate.ratio? outstanding offer.payment.amount with
  | none => exact .reject trivial
  | some portion =>
      have isPortion := ratio?_isPortion positive atMost ratio
      have nonneg : 0 ≤ offer.payment.units := by omega
      refine .bind (Money.split_never_fails minor nonneg isPortion) fun split => ?_
      by_cases meets : split.taken.amount ≈ outstanding
      · rw [if_pos meets]
        exact .ok _
      · rw [if_neg meets]
        exact .reject trivial

section Portion

variable (portion : terms.lenderInterestRate.IsPortion)
include portion

theorem use_refuses {offer : LenderOffer} {investment : Money} (minor : investment.IsMinor places)
    (nonneg : 0 ≤ investment.units) :
    FailsWithin Failure.IsRefusal (terms.use bounds offer investment) :=
  .bind (Money.split_never_fails minor nonneg portion) fun _ =>
    .bind (investment.sum_refuses _) fun _ => .ok _

/-- A sound offer is considered without an unforeseen failure while something is outstanding. -/
theorem step_foreseen {progress : AllocationProgress} {listed : LenderOffer}
    (known : ∀ money : Money, money.currency = bounds.currency → money.precision = .ok places)
    (sound : listed.IsSound) (isOpen : progress.IsOpen places) :
    FailsWithin Failure.IsForeseen (terms.step overfill bounds progress listed) := by
  unfold step
  by_cases currency : listed.payment.currency = bounds.currency
  · rw [if_neg (not_not_intro currency)]
    refine .bind_ok listed.payment.rounded_refuses.foreseen fun rounded rounds => ?_
    obtain ⟨own, positive⟩ := sound
    obtain ⟨valueEq, valueMinor⟩ := LenderOffer.rounded_of_isMinor known own currency rounds
    rw [← valueEq] at positive
    have uses (offer : LenderOffer) :
        FailsWithin Failure.IsForeseen (terms.use bounds offer rounded.value) :=
      (use_refuses portion valueMinor (Int.le_of_lt positive)).foreseen
    unfold consider
    dsimp only
    by_cases meets : rounded.value.amount ≈ progress.remaining.amount
    · rw [if_pos meets]
      exact .bind (uses _) fun used => .bind (Money.minus_refuses _ _).foreseen fun _ => .ok _
    · rw [if_neg meets]
      by_cases exceeds : progress.remaining.amount < rounded.value.amount
      · rw [if_pos exceeds]
        refine .bind_ok (overfill_foreseen valueMinor isOpen.positive (Int.le_of_lt exceeds))
          fun split divides => .bind (Money.minus_refuses _ _).foreseen fun remaining => ?_
        obtain ⟨takenMinor, _, takenUnits⟩ := taken_of_overfill valueMinor.precision_eq divides
        have taken : Money.units _ = Money.units _ := takenUnits
        have outstanding := isOpen.positive
        have takenNonneg : 0 ≤ split.taken.units := by omega
        exact .bind (use_refuses portion takenMinor takenNonneg).foreseen fun _ => .ok _
      · rw [if_neg exceeds]
        split
        · exact .bind (uses _) fun used => .bind (Money.minus_refuses _ _).foreseen fun _ => .ok _
        · exact .ok _
  · rw [if_pos currency]
    exact .reject trivial

/-- An allocation under way goes on without an unforeseen failure while something is outstanding. -/
theorem fillBy_foreseen {progress : AllocationProgress} {offers : List LenderOffer}
    (known : ∀ money : Money, money.currency = bounds.currency → money.precision = .ok places)
    (each : ∀ offer ∈ offers, offer.IsSound) (isOpen : progress.IsOpen places) :
    FailsWithin Failure.IsForeseen (terms.fillBy overfill bounds progress offers) := by
  induction offers generalizing progress with
  | nil => exact .reject trivial
  | cons listed rest ih =>
      obtain ⟨sound, later⟩ := List.forall_mem_cons.mp each
      rw [fillBy_cons]
      refine .bind_ok (step_foreseen portion known sound isOpen) fun next steps => ?_
      cases covered : next.covered with
      | true => exact .ok _
      | false => exact ih later (isOpen_of_step known isOpen steps covered)

/-- Sound offers are allocated against a principal above zero without an unforeseen failure. -/
theorem allocate_foreseen {loan : LoanId} {principal : Money} {offers : List LenderOffer}
    {now : Calendar.Instant} (least : terms.minInvestmentRate.IsPortion)
    (each : ∀ offer ∈ offers, offer.IsSound) (minor : principal.IsMinor places)
    (positive : 0 < principal.units) :
    FailsWithin Failure.IsForeseen (terms.allocate loan principal offers now) := by
  refine .bind_ok principal.rounded_refuses.foreseen fun rounded rounds => ?_
  rw [minor.value_of_rounded rounds]
  refine .bind (Money.split_never_fails minor (Int.le_of_lt positive) least) fun share => ?_
  refine .bind (dueAfter_refuses now _).foreseen fun due => ?_
  apply fillBy_foreseen portion _ each ⟨minor, positive⟩
  intro money same
  exact (Money.precision_congr same).trans minor.precision_eq

end Portion

end AllocationTerms

end LoanBook
