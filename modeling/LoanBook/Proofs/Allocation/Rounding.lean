import LoanBook.Proofs.Allocation.MinorUnits
import LoanBook.Proofs.Allocation.Steps

/-!
# Rounding before an allocation

An allocation rounds the principal and the offers that it considers, so it makes no difference
whether they were rounded before.  The offers after the closing one are not considered: where the
policy reports them, they are reported as they were listed.
-/

namespace LoanBook

/-- The allocation with every offer that it reports as unused rounded to minor units. -/
def Allocation.snapped (allocation : Allocation) : Allocation :=
  { allocation with unused := allocation.unused.map LenderOffer.snapped }

theorem Allocation.snapped_eq_self_iff {allocation : Allocation} :
    allocation.snapped = allocation ↔ ∀ offer ∈ allocation.unused, offer.snapped = offer := by
  obtain ⟨used, unused⟩ := allocation
  have keeps := @List.map_inj_left _ _ unused LenderOffer.snapped id
  rw [List.map_id] at keeps
  simpa [snapped] using keeps

/-- The offers that are not used so far are rounded. -/
def AllocationProgress.IsSnapped (progress : AllocationProgress) : Prop :=
  ∀ offer ∈ progress.unused, offer.snapped = offer

theorem AllocationProgress.IsSnapped.close {progress : AllocationProgress}
    (isSnapped : progress.IsSnapped) (policy : CoveredOfferPolicy) (rest : List LenderOffer) :
    progress.close policy (rest.map LenderOffer.snapped) = (progress.close policy rest).snapped := by
  have before : progress.unused.map LenderOffer.snapped = progress.unused := by
    have keeps := List.map_congr_left isSnapped
    rwa [List.map_id'] at keeps
  cases policy <;>
    simp [AllocationProgress.close, Allocation.snapped, List.map_reverse, before]

namespace AllocationTerms

variable {terms : AllocationTerms} {bounds : AllocationBounds} {progress last : AllocationProgress}

/-- A step puts aside only rounded money, what an offer exceeds the principal by included. -/
theorem isSnapped_of_step {listed : LenderOffer} {next : AllocationStep}
    (steps : terms.step overfill bounds progress listed = .ok next)
    (isSnapped : progress.IsSnapped) : next.progress.IsSnapped := by
  obtain ⟨_, rounded, rounds, considers⟩ := considers_of_step steps
  obtain ⟨currency, minor⟩ := Money.IsMinorOf.exists_of_rounded rounds
  cases considers with
  | exact meets uses leaves => exact isSnapped
  | larger exceeds divides leaves uses =>
      refine List.forall_mem_cons.mpr ⟨?_, isSnapped⟩
      have remainderMinor := (overfill_isMinorOf minor divides).2
      rw [LenderOffer.snapped, remainderMinor.isMinor.snapped]
  | part short accepted uses leaves => exact isSnapped
  | skip short refused =>
      refine List.forall_mem_cons.mpr ⟨?_, isSnapped⟩
      rw [← LenderOffer.snapped_of_rounded rounds, LenderOffer.snapped_snapped]

theorem Passes.isSnapped {before : List LenderOffer} {final : AllocationProgress}
    (passes : Passes overfill terms bounds progress before final)
    (isSnapped : progress.IsSnapped) : final.IsSnapped := by
  induction passes with
  | refl progress => exact isSnapped
  | cons steps passes ih => exact ih (isSnapped_of_step steps isSnapped)

theorem isSnapped_of_settlement {loan : LoanId} {principal : Money} {offers rest : List LenderOffer}
    {now : Calendar.Instant} (settles : terms.settlement loan principal offers now = .ok (last, rest)) :
    last.IsSnapped := by
  obtain ⟨⟨bounds, start⟩, opens, settles⟩ := bind_eq_ok_iff.mp settles
  obtain ⟨rounded, _, opens⟩ := bind_eq_ok_iff.mp opens
  obtain ⟨share, _, opens⟩ := bind_eq_ok_iff.mp opens
  obtain ⟨due, _, opens⟩ := bind_eq_ok_iff.mp opens
  cases opens
  obtain ⟨before, closing, final, _, passes, closes⟩ := settle_eq_ok_iff.mp settles
  exact isSnapped_of_step closes (passes.isSnapped (by simp [AllocationProgress.IsSnapped]))

/-- Rounding the principal and the offers first rounds the offers that come back unused, and changes
nothing else: not the answer where the later offers are dropped, and not where those reported were
rounded already. -/
theorem allocate_snapped (terms : AllocationTerms) (loan : LoanId) (principal : Money)
    (offers : List LenderOffer) (now : Calendar.Instant) :
    terms.allocate loan principal.snapped (offers.map LenderOffer.snapped) now =
        Allocation.snapped <$> terms.allocate loan principal offers now ∧
      allocate { terms with policy := .drop } loan principal.snapped
          (offers.map LenderOffer.snapped) now =
        allocate { terms with policy := .drop } loan principal offers now ∧
      (terms.allocate loan principal.snapped (offers.map LenderOffer.snapped) now =
          terms.allocate loan principal offers now ↔
        ∀ allocation, terms.allocate loan principal offers now = .ok allocation →
          ∀ offer ∈ allocation.unused, offer.snapped = offer) := by
  have maps : terms.allocate loan principal.snapped (offers.map LenderOffer.snapped) now =
      Allocation.snapped <$> terms.allocate loan principal offers now := by
    rw [allocate_eq_map_settlement, allocate_eq_map_settlement, settlement_snapped]
    cases settles : terms.settlement loan principal offers now with
    | error failure => rfl
    | ok settled =>
        exact congrArg Except.ok ((isSnapped_of_settlement settles).close terms.policy settled.2)
  refine ⟨maps, ?_, ?_⟩
  · rw [allocate_eq_map_settlement, allocate_eq_map_settlement, settlement_snapped]
    simp only [settlement_withPolicy]
    cases terms.settlement loan principal offers now <;> rfl
  · rw [maps]
    cases terms.allocate loan principal offers now with
    | error failure => simp
    | ok allocation => simp [Allocation.snapped_eq_self_iff]

/-- An offer of ten dollars. -/
def wholeOffer : LenderOffer :=
  ⟨⟨"first"⟩, none, .dollars (.ofDigits false 10 0)⟩

/-- An offer of a dollar and half a cent. -/
def lateOffer : LenderOffer :=
  ⟨⟨"second"⟩, none, .dollars (.ofDigits false 1005 3)⟩

/-- An offer that comes after the principal is covered is reported with its half cent, unless it was
rounded before. -/
theorem allocate_reports_half_cent :
    let terms := { AllocationTerms.ofConfig .standard with policy := .markUnused }
    let principal := wholeOffer.payment
    Allocation.unused <$> terms.allocate (.ofClock 0 1) principal [wholeOffer, lateOffer]
        principal.time = .ok [lateOffer] ∧
      Allocation.unused <$> terms.allocate (.ofClock 0 1) principal.snapped
        ([wholeOffer, lateOffer].map LenderOffer.snapped) principal.time =
          .ok [{ lateOffer with payment := .dollars (.ofDigits false 101 2) }] ∧
      terms.allocate (.ofClock 0 1) principal.snapped
          ([wholeOffer, lateOffer].map LenderOffer.snapped) principal.time ≠
        terms.allocate (.ofClock 0 1) principal [wholeOffer, lateOffer] principal.time := by
  decide +kernel

end AllocationTerms

end LoanBook
