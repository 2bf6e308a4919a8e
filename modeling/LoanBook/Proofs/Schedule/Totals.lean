import LoanBook.Proofs.Schedule.Conservation
import LoanBook.Proofs.Schedule.DueDates

/-!
# Totals of a schedule

A schedule is made for a principal of either sign whenever three times the principal fits into 96
bits of minor units and the last due date is in the calendar.  Its total is the principal with
interest and service fee, and its installments, numbered from one, come to exactly that.
-/

namespace LoanBook

open Calendar (Instant)

namespace RepaymentTerms

variable {places : Nat}

/-- The sum of a principal of either sign with two parts divided off it is exact when the principal
fits three times. -/
theorem exists_total {principal : Money} {interest fee : Split} (minor : principal.IsMinor places)
    (fits : Decimal.FitsMinor places (3 * principal.units))
    (interestDivided : principal.IsDivided places interest)
    (feeDivided : principal.IsDivided places fee) :
    ∃ amount, principal.sum [interest.taken, fee.taken] = .ok { principal with amount } ∧
      Money.IsMinor places { principal with amount } ∧ Decimal.FitsMinor places amount.units ∧
      amount.units = principal.units + interest.taken.units + fee.taken.units := by
  have interestSides := interestDivided.sides
  have feeSides := feeDivided.sides
  have each : ∀ operand ∈ [interest.taken, fee.taken],
      operand.currency = principal.currency ∧ operand.amount.scale ≤ places :=
    List.forall_mem_cons.mpr
      ⟨⟨by rw [interestDivided.taken_eq], interestDivided.taken_minor.scale_le⟩,
        List.forall_mem_singleton.mpr
          ⟨by rw [feeDivided.taken_eq], feeDivided.taken_minor.scale_le⟩⟩
  have principalUnits : principal.amount.units = principal.units := rfl
  unfold Decimal.FitsMinor at fits
  obtain ⟨amount, summed, short, units⟩ := Money.exists_foldlM_addTo_of_fits
    (Money.places_le_maxScale minor.precision_eq) minor.scale_le each (by simp; omega)
  simp only [List.map_cons, List.map_nil, List.sum_cons, List.sum_nil] at units
  refine ⟨amount, ?_, ⟨minor.precision_eq, short⟩, ?_, by omega⟩
  · rw [Money.sum, summed]
    rfl
  · unfold Decimal.FitsMinor
    omega

/-- The installments of a schedule add up to its total. -/
theorem exists_installmentTotal {schedule : RepaymentSchedule} (placesLe : places ≤ Decimal.maxScale)
    (parts : ∀ installment ∈ schedule.installments, IsPart places schedule.total installment)
    (fits : Decimal.FitsMinor places schedule.total.units)
    (total : installmentUnits schedule.installments = schedule.total.units)
    (distance : (schedule.installments.map fun installment =>
      installment.amount.units.natAbs).sum = schedule.total.units.natAbs) :
    ∃ amount, schedule.installmentTotal =
        .ok { Money.zero schedule.total.currency schedule.total.time with amount } ∧
      amount ≈ schedule.total.amount := by
  have each : ∀ operand ∈ schedule.installments.map Installment.amount,
      operand.currency = schedule.total.currency ∧ operand.amount.scale ≤ places := by
    intro operand member
    obtain ⟨installment, installmentMem, rfl⟩ := List.mem_map.mp member
    have part := parts installment installmentMem
    exact ⟨part.currency_eq, part.minor.scale_le⟩
  have distances : ((schedule.installments.map Installment.amount).map
      fun operand => operand.units.natAbs).sum = schedule.total.units.natAbs := by
    rw [List.map_map]
    exact distance
  have totals : ((schedule.installments.map Installment.amount).map Money.units).sum =
      schedule.total.units := by
    rw [List.map_map]
    exact total
  unfold Decimal.FitsMinor at fits
  obtain ⟨amount, summed, _, units⟩ := @Money.exists_foldlM_addTo_of_fits places _ _
    Decimal.zero placesLe (Nat.zero_le _) each
    (by rwa [distances, Decimal.units_zero, Int.natAbs_zero, Nat.zero_add])
  refine ⟨amount, ?_, ?_⟩
  · rw [RepaymentSchedule.installmentTotal, Money.sum]
    show (schedule.installments.map Installment.amount).foldlM
      (Money.addTo schedule.total.currency) Decimal.zero >>= _ = _
    rw [summed]
    rfl
  · rw [Decimal.equiv_def, units, totals, Decimal.units_zero, Int.zero_add]
    rfl

theorem numbers_of_schedule {terms : RepaymentTerms} {principal : Money} {start : Instant}
    {schedule : RepaymentSchedule} (schedules : terms.schedule principal start = .ok schedule) :
    schedule.installments.map (fun installment => installment.number.toNat) =
      List.range' 1 terms.installmentCount.toNat := by
  obtain ⟨length, isDue⟩ := schedule_isDue schedules
  apply List.ext_getElem
  · simp [length]
  · intro index inRange _
    rw [List.length_map] at inRange
    have numbered := (isDue index _ (List.getElem?_eq_getElem inRange)).1
    simp [numbered, Nat.add_comm]

/-- The total of a schedule is the principal with the interest and the service fee, and the
installments, as many as the terms say and numbered from one, come to exactly the total.  There is
such a schedule for every principal that fits three times into 96 bits of minor units, whatever its
sign, if the last month is in the calendar. -/
theorem schedule_totals {terms : RepaymentTerms} {principal : Money} {rounded : Rounded}
    {start : Instant} (known : principal.precision = .ok places)
    (rounds : principal.rounded = .ok rounded)
    (fits : Decimal.FitsMinor places (3 * rounded.value.units))
    (interestPortion : terms.interestRate.IsPortion) (feePortion : terms.serviceFeeRate.IsPortion)
    (some : terms.installmentCount ≠ 0)
    (dated : (start.addMonths? terms.installmentCount.toNat).isSome) :
    ∃ schedule interest fee, terms.schedule principal start = .ok schedule ∧
      schedule.installments.map (fun installment => installment.number.toNat) =
        List.range' 1 terms.installmentCount.toNat ∧
      rounded.value.split terms.interestRate = .ok interest ∧
      rounded.value.split terms.serviceFeeRate = .ok fee ∧
      schedule.total = { rounded.value with amount := schedule.total.amount } ∧
      schedule.total.units = rounded.value.units + interest.taken.units + fee.taken.units ∧
      ∃ amount, schedule.installmentTotal =
          .ok { Money.zero schedule.total.currency schedule.total.time with amount } ∧
        amount ≈ schedule.total.amount := by
  obtain ⟨_, minor, roundedKnown, _⟩ := Money.isMinor_of_rounded rounds
  cases known.symm.trans roundedKnown
  have fitsOnce : Decimal.FitsMinor places rounded.value.units := by
    unfold Decimal.FitsMinor at *
    omega
  obtain ⟨interest, interestSplits, interestDivided, _⟩ :=
    Money.exists_isDivided minor fitsOnce interestPortion
  obtain ⟨fee, feeSplits, feeDivided, _⟩ := Money.exists_isDivided minor fitsOnce feePortion
  obtain ⟨amount, sums, totalMinor, fitsTotal, totalUnits⟩ :=
    exists_total minor fits interestDivided feeDivided
  have few := terms.installmentCount.toNat_lt
  obtain ⟨currency, totalMinorOf⟩ := totalMinor.exists_isMinorOf
  obtain ⟨made, makes⟩ := (exists_installments_iff totalMinorOf some).mpr dated
  have schedules : terms.schedule principal start = .ok ⟨rounded.value, interest.taken, fee.taken,
      { rounded.value with amount }, made.1⟩ := by
    rw [schedule, if_neg some, rounds, ok_bind, interestSplits, ok_bind, feeSplits, ok_bind, sums,
      ok_bind, makes, ok_bind]
    rfl
  obtain ⟨new, madeEq, _, parts, total, distance, nothingLeft⟩ :=
    installmentsFrom_divides totalMinor fitsTotal few makes
  have allMade : made.1 = new := by simpa using madeEq
  have left := nothingLeft (toNat_pos_of_ne_zero some)
  rw [left] at total distance
  refine ⟨_, interest, fee, schedules, ?_, interestSplits, feeSplits, rfl, totalUnits, ?_⟩
  · exact numbers_of_schedule schedules
  · subst allMade
    exact exists_installmentTotal (Money.places_le_maxScale known) parts fitsTotal
      (by simpa using total) (by simpa using distance)

/-- Ten per cent interest and five per cent service fee over a quarter. -/
def quarter : RepaymentTerms :=
  ⟨.ofPercentage 10, .ofPercentage 5, 3⟩

/-- A debt of a hundred dollars and half a cent. -/
def debt : Money :=
  ⟨"USD", ⟨true, 100005, 3, by decide, by decide⟩,
    (Instant.ofUnixSeconds? 1706659200).get (by decide +kernel), ""⟩

theorem schedule_totals_quarter :
    ∃ rounded, debt.precision = .ok 2 ∧ debt.rounded = .ok rounded ∧
      Decimal.FitsMinor 2 (3 * rounded.value.units) ∧ quarter.interestRate.IsPortion ∧
      quarter.serviceFeeRate.IsPortion ∧ quarter.installmentCount ≠ 0 ∧
      (debt.time.addMonths? quarter.installmentCount.toNat).isSome ∧
      ∃ schedule interest fee, quarter.schedule debt debt.time = .ok schedule ∧
        schedule.installments.map (fun installment => installment.number.toNat) =
          List.range' 1 quarter.installmentCount.toNat ∧
        rounded.value.split quarter.interestRate = .ok interest ∧
        rounded.value.split quarter.serviceFeeRate = .ok fee ∧
        schedule.total = { rounded.value with amount := schedule.total.amount } ∧
        schedule.total.units = rounded.value.units + interest.taken.units + fee.taken.units ∧
        ∃ amount, schedule.installmentTotal =
            .ok { Money.zero schedule.total.currency schedule.total.time with amount } ∧
          amount ≈ schedule.total.amount := by
  have known : debt.precision = .ok 2 := by decide +kernel
  have rounds := Money.rounded_eq_ok_iff.mpr ⟨2, known, rfl⟩
  have fits : Decimal.FitsMinor 2 (3 * (debt.amount.round 2).units) := by
    unfold Decimal.FitsMinor
    decide +kernel
  have interestPortion : quarter.interestRate.IsPortion := by decide +kernel
  have feePortion : quarter.serviceFeeRate.IsPortion := by decide +kernel
  have some : quarter.installmentCount ≠ 0 := by decide
  have dated : (debt.time.addMonths? quarter.installmentCount.toNat).isSome := by decide +kernel
  exact ⟨_, known, rounds, fits, interestPortion, feePortion, some, dated,
    schedule_totals known rounds fits interestPortion feePortion some dated⟩

end RepaymentTerms

end LoanBook
