import LoanBook.Proofs.Money.Signs
import LoanBook.Proofs.Rate.Ratios
import LoanBook.Schedule

/-!
# A schedule loses nothing

The installments of a schedule are as many as its terms say, none of them is below zero, and they
add up exactly to the principal with the interest and the service fee.  The total must fit into 96
bits of minor units, which it does when three times the principal does.
-/

namespace LoanBook

namespace RepaymentTerms

open Calendar (Instant)

/-- The sum of the amounts of installments, in units of `10 ^ -28`. -/
def installmentUnits (installments : List Installment) : Int :=
  (installments.map fun installment => installment.amount.units).sum

/-- An installment in minor units of the same currency as some money, and not below zero. -/
def IsOwed (places : Nat) (money : Money) (installment : Installment) : Prop :=
  installment.amount.IsMinor places ∧ installment.amount.currency = money.currency ∧
    0 ≤ installment.amount.units

/-- An installment in minor units of the same currency as some money, and not on the other side of
zero. -/
structure IsPart (places : Nat) (money : Money) (installment : Installment) : Prop where
  minor : installment.amount.IsMinor places
  currency_eq : installment.amount.currency = money.currency
  nonneg : 0 ≤ money.units → 0 ≤ installment.amount.units
  nonpos : money.units ≤ 0 → installment.amount.units ≤ 0

/-- The installments made from what remains add up to it without ever going back, and nothing is left
when there is one at least. -/
theorem installmentsFrom_divides {count : UInt32} {start : Instant} {places left number : Nat}
    {remaining : Money} {made : List Installment} {result : List Installment × Money}
    (minor : remaining.IsMinor places) (fits : Decimal.FitsMinor places remaining.units)
    (few : left < 2 ^ 32)
    (makes : installmentsFrom count start left number remaining made = .ok result) :
    ∃ new, result.1 = made.reverse ++ new ∧ new.length = left ∧
      (∀ installment ∈ new, IsPart places remaining installment) ∧
      installmentUnits new + result.2.units = remaining.units ∧
      (new.map fun installment => installment.amount.units.natAbs).sum + result.2.units.natAbs =
        remaining.units.natAbs ∧
      (0 < left → result.2.units = 0) := by
  induction left generalizing number remaining made with
  | zero =>
      cases makes
      exact ⟨[], by simp, rfl, by simp, by simp [installmentUnits], by simp, by simp⟩
  | succ left ih =>
      obtain ⟨share, splits, makes⟩ := bind_eq_ok_iff.mp makes
      obtain ⟨due, _, makes⟩ := bind_eq_ok_iff.mp makes
      obtain ⟨split, splitEq, isDivided, whole⟩ :=
        Money.exists_isDivided minor fits (Rate.oneOver_isPortion (.ofNat (left + 1)))
      cases splits.symm.trans splitEq
      have rest := isDivided.remainder_units
      have sides := isDivided.sides
      have restFits : Decimal.FitsMinor places share.remainder.units := by
        unfold Decimal.FitsMinor at *
        omega
      obtain ⟨later, resultEq, length, parts, total, distance, nothingLeft⟩ :=
        ih isDivided.remainder_minor restFits (by omega) makes
      let next : Installment := ⟨.ofNat number, count, { share.taken with time := due }⟩
      have nextUnits : next.amount.units = share.taken.units := rfl
      refine ⟨next :: later, ?_, ?_, List.forall_mem_cons.mpr ⟨?_, ?_⟩, ?_, ?_, ?_⟩
      · rw [resultEq, List.reverse_cons, List.append_assoc]
        rfl
      · rw [List.length_cons, length]
      · exact
          { minor := ⟨isDivided.taken_minor.precision_eq, isDivided.taken_minor.scale_le⟩
            currency_eq := by
              show share.taken.currency = remaining.currency
              rw [isDivided.taken_eq]
            nonneg := by omega
            nonpos := by omega }
      · intro installment member
        have part := parts installment member
        exact
          { minor := part.minor
            currency_eq := by rw [part.currency_eq, isDivided.remainder_eq]
            nonneg := fun _ => part.nonneg (by omega)
            nonpos := fun _ => part.nonpos (by omega) }
      · rw [installmentUnits, List.map_cons, List.sum_cons, ← installmentUnits, nextUnits]
        omega
      · rw [List.map_cons, List.sum_cons, nextUnits]
        omega
      · intro _
        -- the last installment takes the whole of what remains
        cases left with
        | zero =>
            have taken : share.taken.units = remaining.units := whole Rate.oneOver_one
            cases makes
            show share.remainder.units = 0
            omega
        | succ left => exact nothingLeft (Nat.succ_pos left)

/-- The installments made from what remains add up to it, and nothing is left when there is one at
least. -/
theorem installmentsFrom_conserves {count : UInt32} {start : Instant} {places left number : Nat}
    {remaining : Money} {made : List Installment} {result : List Installment × Money}
    (minor : remaining.IsMinor places) (nonneg : 0 ≤ remaining.units)
    (fits : Decimal.FitsMinor places remaining.units) (few : left < 2 ^ 32)
    (makes : installmentsFrom count start left number remaining made = .ok result) :
    ∃ new, result.1 = made.reverse ++ new ∧ new.length = left ∧
      (∀ installment ∈ new, IsOwed places remaining installment) ∧
      installmentUnits new + result.2.units = remaining.units ∧
      (0 < left → result.2.units = 0) := by
  obtain ⟨new, resultEq, length, parts, total, _, nothingLeft⟩ :=
    installmentsFrom_divides minor fits few makes
  refine ⟨new, resultEq, length, fun installment member => ?_, total, nothingLeft⟩
  have part := parts installment member
  exact ⟨part.minor, part.currency_eq, part.nonneg nonneg⟩

/-- A schedule is made of the rounded principal alone. -/
theorem schedule_rounded {terms : RepaymentTerms} {principal : Money} {rounded : Rounded}
    (rounds : principal.rounded = .ok rounded) (start : Instant) :
    terms.schedule rounded.value start = terms.schedule principal start := by
  obtain ⟨places, minor, _, _⟩ := Money.isMinor_of_rounded rounds
  unfold schedule
  rw [rounds, minor.rounded_eq]
  rfl

section Schedule

variable {terms : RepaymentTerms} {principal : Money} {start : Instant}
  {schedule : RepaymentSchedule} {places : Nat} (minor : principal.IsMinor places)
  (schedules : terms.schedule principal start = .ok schedule)
include minor schedules

/-- The steps by which a schedule is made of a principal in minor units. -/
theorem exists_steps_of_schedule :
    terms.installmentCount ≠ 0 ∧ ∃ interest fee total made,
      principal.split terms.interestRate = .ok interest ∧
      principal.split terms.serviceFeeRate = .ok fee ∧
      principal.sum [interest.taken, fee.taken] = .ok total ∧
      installmentsFrom terms.installmentCount start terms.installmentCount.toNat 1 total [] =
        .ok made ∧
      schedule = ⟨principal, interest.taken, fee.taken, total, made.1⟩ := by
  unfold RepaymentTerms.schedule at schedules
  by_cases none : terms.installmentCount = 0
  · rw [if_pos none] at schedules
    cases schedules
  · rw [if_neg none] at schedules
    obtain ⟨rounded, rounds, schedules⟩ := bind_eq_ok_iff.mp schedules
    rw [minor.value_of_rounded rounds] at schedules
    obtain ⟨interest, interestSplits, schedules⟩ := bind_eq_ok_iff.mp schedules
    obtain ⟨fee, feeSplits, schedules⟩ := bind_eq_ok_iff.mp schedules
    obtain ⟨total, sums, schedules⟩ := bind_eq_ok_iff.mp schedules
    obtain ⟨made, makes, schedules⟩ := bind_eq_ok_iff.mp schedules
    cases schedules
    exact ⟨none, interest, fee, total, made, interestSplits, feeSplits, sums, makes, rfl⟩

theorem principal_of_schedule : schedule.principal = principal := by
  obtain ⟨_, _, _, _, _, _, _, _, _, rfl⟩ := exists_steps_of_schedule minor schedules
  rfl

end Schedule

/-- The sum of a principal with two parts split off it is exact when the principal fits three
times. -/
theorem total_of_sum {principal total : Money} {interest fee : Split} {places : Nat}
    (minor : principal.IsMinor places) (nonneg : 0 ≤ principal.units)
    (fits : Decimal.FitsMinor places (3 * principal.units))
    (interestSplit : principal.IsSplit places interest) (feeSplit : principal.IsSplit places fee)
    (sums : principal.sum [interest.taken, fee.taken] = .ok total) :
    total.IsMinor places ∧ total.currency = principal.currency ∧ 0 ≤ total.units ∧
      Decimal.FitsMinor places total.units ∧
      total.units = principal.units + interest.taken.units + fee.taken.units := by
  have interestLe := interestSplit.taken_le
  have feeLe := feeSplit.taken_le
  have interestNonneg := interestSplit.taken_nonneg
  have feeNonneg := feeSplit.taken_nonneg
  have each : ∀ split ∈ [interest, fee], principal.IsSplit places split :=
    List.forall_mem_cons.mpr ⟨interestSplit, List.forall_mem_singleton.mpr feeSplit⟩
  have sumUnits : ([interest, fee].map fun split => split.taken.units).sum =
      interest.taken.units + fee.taken.units := by
    simp
  have fitsTotal : Decimal.FitsMinor places
      (principal.units + ([interest, fee].map fun split => split.taken.units).sum) := by
    rw [sumUnits]
    exact fits.of_le (by omega) (by omega)
  obtain ⟨amount, summed, short, totalUnits⟩ :=
    Money.exists_sum_taken minor nonneg each fitsTotal
  rw [← totalUnits] at fitsTotal
  rw [sumUnits] at totalUnits
  cases sums.symm.trans summed
  refine ⟨⟨minor.precision_eq, short⟩, rfl, ?_, fitsTotal, ?_⟩
  · show 0 ≤ amount.units
    omega
  · show amount.units = _
    omega

section Conserves

variable {terms : RepaymentTerms} {principal : Money} {start : Instant}
  {schedule : RepaymentSchedule} {places : Nat} (minor : principal.IsMinor places)
  (nonneg : 0 ≤ principal.units) (fits : Decimal.FitsMinor places (3 * principal.units))
  (interestPortion : terms.interestRate.IsPortion) (feePortion : terms.serviceFeeRate.IsPortion)
  (schedules : terms.schedule principal start = .ok schedule)
include minor nonneg fits interestPortion feePortion schedules

/-- The steps by which a schedule is made, none of which loses anything. -/
theorem exists_exact_steps_of_schedule :
    terms.installmentCount ≠ 0 ∧ ∃ interest fee total made,
      principal.split terms.interestRate = .ok interest ∧
      principal.split terms.serviceFeeRate = .ok fee ∧
      total.IsMinor places ∧ total.currency = principal.currency ∧ 0 ≤ total.units ∧
      Decimal.FitsMinor places total.units ∧
      total.units = principal.units + interest.taken.units + fee.taken.units ∧
      installmentsFrom terms.installmentCount start terms.installmentCount.toNat 1 total [] =
        .ok made ∧
      schedule = ⟨principal, interest.taken, fee.taken, total, made.1⟩ := by
  obtain ⟨some, interest, fee, total, made, interestSplits, feeSplits, sums, makes, same⟩ :=
    exists_steps_of_schedule minor schedules
  have fitsOnce : Decimal.FitsMinor places principal.units :=
    fits.of_le nonneg (by omega)
  obtain ⟨_, interestEq, interestSplit, _⟩ :=
    Money.exists_split minor nonneg fitsOnce interestPortion
  cases interestSplits.symm.trans interestEq
  obtain ⟨_, feeEq, feeSplit, _⟩ := Money.exists_split minor nonneg fitsOnce feePortion
  cases feeSplits.symm.trans feeEq
  obtain ⟨totalMinor, currencyEq, totalNonneg, fitsTotal, totalUnits⟩ :=
    total_of_sum minor nonneg fits interestSplit feeSplit sums
  exact ⟨some, interest, fee, total, made, interestEq, feeEq, totalMinor, currencyEq, totalNonneg,
    fitsTotal, totalUnits, makes, same⟩

/-- What a schedule comes to: its terms' number of installments, none below zero, that add up to the
principal with its interest and service fee. -/
theorem schedule_conserves :
    ∃ interest fee, principal.split terms.interestRate = .ok interest ∧
      principal.split terms.serviceFeeRate = .ok fee ∧
      schedule.principal = principal ∧
      schedule.installments.length = terms.installmentCount.toNat ∧
      (∀ installment ∈ schedule.installments, IsOwed places principal installment) ∧
      installmentUnits schedule.installments =
        principal.units + interest.taken.units + fee.taken.units := by
  obtain ⟨some, interest, fee, total, made, interestEq, feeEq, totalMinor, currencyEq, totalNonneg,
    fitsTotal, totalUnits, makes, rfl⟩ := exists_exact_steps_of_schedule minor nonneg fits
      interestPortion feePortion schedules
  have few := terms.installmentCount.toNat_lt
  obtain ⟨new, installments, length, owed, conserved, nothingLeft⟩ :=
    installmentsFrom_conserves totalMinor totalNonneg fitsTotal few makes
  have allMade : made.1 = new := by simpa using installments
  refine ⟨interest, fee, interestEq, feeEq, rfl, ?_, ?_, ?_⟩
  · rw [← length, ← allMade]
  · intro installment member
    obtain ⟨owedMinor, owedCurrency, owedNonneg⟩ := owed installment (allMade ▸ member)
    exact ⟨owedMinor, owedCurrency.trans currencyEq, owedNonneg⟩
  · have left := nothingLeft (toNat_pos_of_ne_zero some)
    show installmentUnits made.1 = _
    rw [allMade]
    omega

end Conserves

end RepaymentTerms

end LoanBook
