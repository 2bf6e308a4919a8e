import LoanBook.Proofs.Schedule.DueDates
import LoanBook.Proofs.Schedule.Failures

/-!
# Installments are even

One `k`-th of what remains is taken with a reciprocal of limited length and two roundings, and still
lies on the same side of every whole number of minor units as the exact quotient, as long as no more
than `10 ^ 27` minor units remain.  So all installments of a schedule are the total divided by their
number, rounded down or up to a minor unit.
-/

namespace LoanBook

open Calendar (Instant)

namespace Money

/-- A reciprocal that misses by half a unit of the last place and a product that misses by half a
tenth miss the exact quotient by a tenth together. -/
theorem share_near {amount reciprocal product : Int} {count tenth : Nat} (nonneg : 0 ≤ amount)
    (bound : amount ≤ tenth * 10 ^ Decimal.maxScale)
    (reciprocalGap : 2 * (reciprocal * count - 10 ^ Decimal.maxScale).natAbs ≤ count)
    (productGap : 2 * (product * 10 ^ Decimal.maxScale - amount * reciprocal).natAbs ≤
      tenth * 10 ^ Decimal.maxScale) :
    (product * count - amount).natAbs ≤ tenth * count := by
  have countNonneg : (0 : Int) ≤ count := Int.natCast_nonneg count
  simp only [Decimal.maxScale] at bound reciprocalGap productGap
  have reciprocalAbove : amount * (2 * (reciprocal * count - 10 ^ 28)) ≤ amount * count :=
    Int.mul_le_mul_of_nonneg_left (by omega) nonneg
  have reciprocalBelow : amount * (2 * (10 ^ 28 - reciprocal * count)) ≤ amount * count :=
    Int.mul_le_mul_of_nonneg_left (by omega) nonneg
  have productAbove :
      2 * (product * 10 ^ 28 - amount * reciprocal) * count ≤ tenth * 10 ^ 28 * count :=
    Int.mul_le_mul_of_nonneg_right (by omega) countNonneg
  have productBelow :
      2 * (amount * reciprocal - product * 10 ^ 28) * count ≤ tenth * 10 ^ 28 * count :=
    Int.mul_le_mul_of_nonneg_right (by omega) countNonneg
  have amountBound : amount * count ≤ tenth * 10 ^ 28 * count :=
    Int.mul_le_mul_of_nonneg_right bound countNonneg
  zify
  rw [abs_le]
  constructor
  · linarith
  · linarith

variable {money : Money} {places amount : Nat}

theorem IsMinor.exists_count (minor : money.IsMinor places) (nonneg : 0 ≤ money.units) :
    ∃ count : Nat, money.units = count * 10 ^ (Decimal.maxScale - places) := by
  refine ⟨money.amount.mantissa * 10 ^ (places - money.amount.scale), ?_⟩
  rw [units, Decimal.units_of_nonneg nonneg,
    Decimal.magnitude_eq_mul minor.scale_le (places_le_maxScale minor.precision_eq)]
  push_cast
  rfl

/-- An amount counted in minor units fits when there are at most `10 ^ 27` of them. -/
theorem fitsMinor_of_count (counted : money.units = amount * 10 ^ (Decimal.maxScale - places))
    (bound : amount ≤ 10 ^ 27) : Decimal.FitsMinor places money.units := by
  have natural : money.units = (amount * 10 ^ (Decimal.maxScale - places) : Nat) := by
    rw [counted]
    push_cast
    rfl
  rw [Decimal.FitsMinor, natural, Int.natAbs_natCast]
  exact Nat.mul_lt_mul_of_pos_right (Nat.lt_of_le_of_lt bound (by decide))
    (Nat.pow_pos (by decide))

/-- What is left of a number of minor units is the other number of them. -/
theorem remainder_of_count {portion : Rate} {split : Split} {share : Nat}
    (minor : money.IsMinor places)
    (counted : money.units = amount * 10 ^ (Decimal.maxScale - places)) (bound : amount ≤ 10 ^ 27)
    (isPortion : portion.IsPortion) (splits : money.split portion = .ok split)
    (shareUnits : split.taken.units = share * 10 ^ (Decimal.maxScale - places)) :
    split.remainder.IsMinor places ∧
      split.remainder.units = money.units - split.taken.units ∧
      split.remainder.units = ((amount - share : Nat) : Int) * 10 ^ (Decimal.maxScale - places) := by
  obtain ⟨_, splitEq, isSplit, _⟩ := exists_split minor (by rw [counted]; positivity)
    (fitsMinor_of_count counted bound) isPortion
  cases splits.symm.trans splitEq
  have takenLe := isSplit.taken_le
  rw [shareUnits, counted] at takenLe
  have shareLe : share ≤ amount := by
    exact_mod_cast Int.le_of_mul_le_mul_right takenLe (by positivity)
  refine ⟨isSplit.remainder_minor, isSplit.remainder_units, ?_⟩
  rw [isSplit.remainder_units, counted, shareUnits, Nat.cast_sub shareLe, Int.sub_mul]

section Share

variable {count : UInt32} {split : Split} (minor : money.IsMinor places)
  (counted : money.units = amount * 10 ^ (Decimal.maxScale - places)) (bound : amount ≤ 10 ^ 27)
  (some : count ≠ 0) (splits : money.split (.oneOver count) = .ok split)
include minor counted bound some splits

/-- One `k`-th of a number of minor units is a product that misses the exact quotient by a tenth of
a minor unit at most, rounded to minor units. -/
theorem exists_product_of_split :
    ∃ product, money.amount.mul? (Rate.oneOver count).decimal = Option.some product ∧
      0 ≤ product.units ∧
      ((product.magnitude * count.toNat : Nat) -
        (amount * 10 ^ (Decimal.maxScale - places) : Nat) : Int).natAbs ≤
          10 ^ (27 - places) * count.toNat ∧
      split.taken.units =
        Rounding.halfUp product.magnitude (10 ^ (Decimal.maxScale - places)) *
          10 ^ (Decimal.maxScale - places) := by
  have placesLe := places_le_maxScale minor.precision_eq
  have placesFew := places_le minor.precision_eq
  have boundEq : 10 ^ 27 * 10 ^ (Decimal.maxScale - places) =
      10 ^ (27 - places) * 10 ^ Decimal.maxScale := by
    rw [← Nat.pow_add, ← Nat.pow_add]
    congr 1
    simp only [Decimal.maxScale]
    omega
  have natural : money.units = (amount * 10 ^ (Decimal.maxScale - places) : Nat) := by
    rw [counted]
    push_cast
    rfl
  have nonneg : 0 ≤ money.units := by
    rw [natural]
    exact Int.natCast_nonneg _
  have unitsBound : money.units ≤ (10 ^ (27 - places) : Nat) * 10 ^ Decimal.maxScale := by
    rw [natural]
    exact_mod_cast boundEq ▸ Nat.mul_le_mul_right _ bound
  obtain ⟨portionNonneg, portionLe⟩ := Rate.isPortion_iff.mp (Rate.oneOver_isPortion count)
  obtain ⟨product, multiplied, productNonneg, productNear⟩ := Decimal.exists_mul?_near nonneg
    portionNonneg portionLe (show places < Decimal.maxScale by simp only [Decimal.maxScale]; omega)
    (by exact_mod_cast unitsBound)
  obtain ⟨_, _, rawEq, takenEq⟩ := taken_of_split minor.precision_eq splits
  cases multiplied.symm.trans rawEq
  have near := share_near nonneg unitsBound (Rate.oneOver_near some) productNear
  rw [Decimal.units_of_nonneg productNonneg, natural] at near
  refine ⟨product, multiplied, productNonneg, by exact_mod_cast near, ?_⟩
  rw [takenEq]
  exact_mod_cast Decimal.units_round_of_nonneg productNonneg placesLe

/-- One `k`-th of a number of minor units is taken as a number of them that is on the same side of
every whole number as the exact quotient. -/
theorem exists_share :
    ∃ taken : Nat, split.taken.units = taken * 10 ^ (Decimal.maxScale - places) ∧
      ∀ whole, (whole * count.toNat ≤ amount → whole ≤ taken) ∧
        (amount ≤ whole * count.toNat → taken ≤ whole) := by
  have placesFew := places_le minor.precision_eq
  have unitEq : 10 ^ (Decimal.maxScale - places) = 10 ^ (27 - places) * 10 := by
    rw [← Nat.pow_succ]
    congr 1
    simp only [Decimal.maxScale]
    omega
  obtain ⟨product, _, _, near, takenEq⟩ := exists_product_of_split minor counted bound some splits
  refine ⟨_, takenEq, ?_⟩
  have countPos := toNat_pos_of_ne_zero some
  have tenthPos : 0 < 10 ^ (27 - places) := Nat.pow_pos (by decide)
  have unitPos : 0 < 10 ^ (Decimal.maxScale - places) := Nat.pow_pos (by decide)
  generalize 10 ^ (Decimal.maxScale - places) = unit at unitEq unitPos near ⊢
  generalize 10 ^ (27 - places) = tenth at unitEq tenthPos near
  -- the rounding of the product forgives a tenth of a minor unit on both sides
  intro whole
  rw [Rounding.le_halfUp_iff unitPos, Rounding.halfUp_le_iff unitPos]
  constructor
  · intro below
    have scaled := Nat.mul_le_mul_right unit below
    have close : whole * unit * count.toNat ≤ (product.magnitude + tenth) * count.toNat := by
      rw [Nat.mul_right_comm, Nat.add_mul]
      omega
    have := Nat.le_of_mul_le_mul_right close countPos
    omega
  · intro above
    have scaled := Nat.mul_le_mul_right unit above
    have close : product.magnitude * count.toNat ≤ (whole * unit + tenth) * count.toNat := by
      rw [Nat.add_mul, Nat.mul_right_comm]
      omega
    have := Nat.le_of_mul_le_mul_right close countPos
    omega

end Share

end Money

namespace RepaymentTerms

theorem ceiling_le_floor_succ (amount : Nat) {count : Nat} (positive : 0 < count) :
    (amount + count - 1) / count ≤ amount / count + 1 := by
  rw [← Nat.add_div_right amount positive]
  exact Nat.div_le_div_right (Nat.sub_le _ _)

theorem ofNat_succ_ne_zero {left : Nat} (few : left + 1 < 2 ^ 32) :
    UInt32.ofNat (left + 1) ≠ 0 := by
  intro none
  have countEq : (UInt32.ofNat (left + 1)).toNat = left + 1 := UInt32.toNat_ofNat_of_lt' few
  rw [none] at countEq
  cases countEq

/-- What is left after a share between two bounds is still between as many of them. -/
theorem left_between {low high amount taken left : Nat} (narrow : high ≤ low + 1)
    (lower : low * (left + 1) ≤ amount) (upper : amount ≤ high * (left + 1))
    (share : ∀ whole, (whole * (left + 1) ≤ amount → whole ≤ taken) ∧
      (amount ≤ whole * (left + 1) → taken ≤ whole)) :
    low * left ≤ amount - taken ∧ amount - taken ≤ high * left := by
  have takenLow := (share low).1 lower
  have takenHigh := (share high).2 upper
  have atLow := (share low).2
  have atHigh := (share high).1
  rw [Nat.mul_succ] at lower upper atLow atHigh
  rcases Nat.lt_or_ge low high with apart | same
  · obtain rfl : high = low + 1 := by omega
    rw [Nat.succ_mul] at upper atHigh ⊢
    omega
  · obtain rfl : taken = low := by omega
    have product := Nat.mul_le_mul_right left same
    omega

/-- Installments made from what is between two neighbouring multiples of their number are between
the two factors. -/
theorem installmentsFrom_between {count : UInt32} {start : Instant}
    {places left number amount low high : Nat} {remaining : Money} {made : List Installment}
    {result : List Installment × Money} (minor : remaining.IsMinor places)
    (counted : remaining.units = amount * 10 ^ (Decimal.maxScale - places))
    (bound : amount ≤ 10 ^ 27) (few : left < 2 ^ 32) (narrow : high ≤ low + 1)
    (lower : low * left ≤ amount) (upper : amount ≤ high * left)
    (makes : installmentsFrom count start left number remaining made = .ok result) :
    ∃ new, result.1 = made.reverse ++ new ∧ ∀ installment ∈ new, ∃ share : Nat,
      installment.amount.units = share * 10 ^ (Decimal.maxScale - places) ∧
        low ≤ share ∧ share ≤ high := by
  induction left generalizing number remaining made amount with
  | zero =>
      cases makes
      exact ⟨[], by simp⟩
  | succ left ih =>
      obtain ⟨share, splits, makes⟩ := bind_eq_ok_iff.mp makes
      obtain ⟨due, _, makes⟩ := bind_eq_ok_iff.mp makes
      have countEq : (UInt32.ofNat (left + 1)).toNat = left + 1 := UInt32.toNat_ofNat_of_lt' few
      obtain ⟨taken, takenUnits, sides⟩ :=
        Money.exists_share minor counted bound (ofNat_succ_ne_zero few) splits
      rw [countEq] at sides
      obtain ⟨restLower, restUpper⟩ := left_between narrow lower upper sides
      obtain ⟨restMinor, _, restCounted⟩ := Money.remainder_of_count minor counted bound
        (Rate.oneOver_isPortion _) splits takenUnits
      obtain ⟨later, resultEq, between⟩ := ih restMinor restCounted
        (Nat.le_trans (Nat.sub_le _ _) bound) (by omega) restLower restUpper makes
      refine ⟨⟨.ofNat number, count, { share.taken with time := due }⟩ :: later, ?_, ?_⟩
      · rw [resultEq, List.reverse_cons, List.append_assoc]
        rfl
      · exact List.forall_mem_cons.mpr
          ⟨⟨taken, takenUnits, (sides low).1 lower, (sides high).2 upper⟩, between⟩

section Schedule

variable {terms : RepaymentTerms} {principal : Money} {start : Instant}
  {schedule : RepaymentSchedule} {places : Nat} (nonneg : 0 ≤ principal.units)
  (known : principal.precision = .ok places)
  (schedules : terms.schedule principal start = .ok schedule)
  (bound : schedule.total.units ≤ 10 ^ 27 * 10 ^ (Decimal.maxScale - places))
include nonneg known schedules bound

/-- The installments are made from a total of at most `10 ^ 27` minor units. -/
theorem exists_counted_total :
    terms.installmentCount ≠ 0 ∧ ∃ amount made, schedule.total.IsMinor places ∧
      schedule.total.units = (amount : Nat) * 10 ^ (Decimal.maxScale - places) ∧
      amount ≤ 10 ^ 27 ∧
      installmentsFrom terms.installmentCount start terms.installmentCount.toNat 1 schedule.total
        [] = .ok made ∧ schedule.installments = made.1 := by
  have rounds := Money.rounded_eq_ok_iff.mpr ⟨places, known, rfl⟩
  obtain ⟨_, minor, roundedKnown, _⟩ := Money.isMinor_of_rounded rounds
  cases known.symm.trans roundedKnown
  rw [← schedule_rounded rounds] at schedules
  obtain ⟨some, interest, fee, total, made, interestSplits, feeSplits, sums, makes, rfl⟩ :=
    exists_steps_of_schedule minor schedules
  obtain ⟨totalMinor, totalNonneg⟩ := total_isMinor
    (Money.taken_of_split minor.precision_eq interestSplits).1
    (Money.taken_of_split minor.precision_eq feeSplits).1 minor
    (Decimal.units_round_nonneg nonneg) interestSplits feeSplits sums
  obtain ⟨amount, counted⟩ := totalMinor.exists_count totalNonneg
  have amountLe : amount ≤ 10 ^ 27 := by
    have scaled : total.units ≤ 10 ^ 27 * 10 ^ (Decimal.maxScale - places) := bound
    rw [counted] at scaled
    exact_mod_cast Int.le_of_mul_le_mul_right scaled (by positivity)
  exact ⟨some, amount, made, totalMinor, counted, amountLe, makes, rfl⟩

/-- The installments lie between the total over their number rounded down and rounded up. -/
theorem exists_total_between :
    0 < terms.installmentCount.toNat ∧ ∃ total : Nat,
      schedule.total.units = total * 10 ^ (Decimal.maxScale - places) ∧
      ∀ installment ∈ schedule.installments, ∃ share : Nat,
        installment.amount.units = share * 10 ^ (Decimal.maxScale - places) ∧
          total / terms.installmentCount.toNat ≤ share ∧
          share ≤ (total + terms.installmentCount.toNat - 1) / terms.installmentCount.toNat := by
  obtain ⟨some, amount, made, totalMinor, counted, amountLe, makes, madeEq⟩ :=
    exists_counted_total nonneg known schedules bound
  have countPos := toNat_pos_of_ne_zero some
  have few := terms.installmentCount.toNat_lt
  refine ⟨countPos, amount, counted, ?_⟩
  rw [madeEq]
  generalize terms.installmentCount.toNat = count at makes countPos few ⊢
  have lower := Nat.div_mul_le_self amount count
  have upper : amount ≤ (amount + count - 1) / count * count := by
    have split := Nat.div_add_mod (amount + count - 1) count
    have small := Nat.mod_lt (amount + count - 1) countPos
    rw [Nat.mul_comm] at split
    omega
  obtain ⟨new, newEq, between⟩ := installmentsFrom_between totalMinor counted amountLe few
    (ceiling_le_floor_succ amount countPos) lower upper makes
  have allMade : made.1 = new := by simpa using newEq
  rw [allMade]
  exact between

/-- Installments are as even as whole minor units allow.  When the total is at most `10 ^ 27` of
them, there are as many installments as the terms say, and each is the total over their number,
rounded down or up; so none is below zero, two differ by one minor unit at most, and all are equal
when the number divides the total. -/
theorem installments_even :
    schedule.installments.length = terms.installmentCount.toNat ∧
    ∃ total : Nat, schedule.total.units = total * 10 ^ (Decimal.maxScale - places) ∧
      (∀ installment ∈ schedule.installments, ∃ share : Nat,
        installment.amount.units = share * 10 ^ (Decimal.maxScale - places) ∧
          (share = total / terms.installmentCount.toNat ∨
            share = (total + terms.installmentCount.toNat - 1) / terms.installmentCount.toNat)) ∧
      (∀ first ∈ schedule.installments, ∀ second ∈ schedule.installments,
        first.amount.units ≤ second.amount.units + 10 ^ (Decimal.maxScale - places)) ∧
      (∀ installment ∈ schedule.installments, 0 ≤ installment.amount.units) ∧
      (terms.installmentCount.toNat ∣ total → ∀ first ∈ schedule.installments,
        ∀ second ∈ schedule.installments, first.amount.units = second.amount.units) := by
  obtain ⟨countPos, total, counted, between⟩ :=
    exists_total_between nonneg known schedules bound
  have narrow := ceiling_le_floor_succ total countPos
  refine ⟨(schedule_isDue schedules).1, total, counted, ?_, ?_, ?_, ?_⟩
  · intro installment member
    obtain ⟨share, shareUnits, low, high⟩ := between installment member
    exact ⟨share, shareUnits, by omega⟩
  · intro first firstMem second secondMem
    obtain ⟨firstShare, firstUnits, _, firstHigh⟩ := between first firstMem
    obtain ⟨secondShare, secondUnits, secondLow, _⟩ := between second secondMem
    have close : firstShare ≤ secondShare + 1 := by omega
    calc
      first.amount.units = firstShare * 10 ^ (Decimal.maxScale - places) := firstUnits
      _ ≤ (secondShare + 1) * 10 ^ (Decimal.maxScale - places) :=
        Int.mul_le_mul_of_nonneg_right (by exact_mod_cast close) (by positivity)
      _ = second.amount.units + 10 ^ (Decimal.maxScale - places) := by
        rw [secondUnits]
        ring
  · intro installment member
    obtain ⟨share, shareUnits, _⟩ := between installment member
    rw [shareUnits]
    positivity
  · rintro ⟨whole, rfl⟩ first firstMem second secondMem
    obtain ⟨firstShare, firstUnits, firstLow, firstHigh⟩ := between first firstMem
    obtain ⟨secondShare, secondUnits, secondLow, secondHigh⟩ := between second secondMem
    have exact : (terms.installmentCount.toNat * whole + terms.installmentCount.toNat - 1) /
        terms.installmentCount.toNat =
          terms.installmentCount.toNat * whole / terms.installmentCount.toNat := by
      rw [Nat.mul_div_cancel_left whole countPos, Nat.add_sub_assoc countPos,
        Nat.mul_add_div countPos, Nat.div_eq_of_lt (by omega)]
      rfl
    obtain rfl : firstShare = secondShare := by omega
    rw [firstUnits, secondUnits]

end Schedule

/-- Ten per cent interest and five per cent service fee over seven months. -/
def sevenMonths : RepaymentTerms :=
  ⟨.ofPercentage 10, .ofPercentage 5, 7⟩

/-- A hundred dollars. -/
def hundredDollars : Money :=
  .dollars .hundred

theorem installments_even_sevenMonths :
    let unit : Int := 10 ^ (Decimal.maxScale - 2)
    ∃ schedule, sevenMonths.schedule hundredDollars hundredDollars.time = .ok schedule ∧
      0 ≤ hundredDollars.units ∧ hundredDollars.precision = .ok 2 ∧
      schedule.total.units ≤ 10 ^ 27 * unit ∧
      schedule.installments.length = sevenMonths.installmentCount.toNat ∧
      ∃ total : Nat, schedule.total.units = total * unit ∧
        (∀ installment ∈ schedule.installments, ∃ share : Nat,
          installment.amount.units = share * unit ∧
            (share = total / sevenMonths.installmentCount.toNat ∨
              share = (total + sevenMonths.installmentCount.toNat - 1) /
                sevenMonths.installmentCount.toNat)) ∧
        (∀ first ∈ schedule.installments, ∀ second ∈ schedule.installments,
          first.amount.units ≤ second.amount.units + unit) ∧
        (∀ installment ∈ schedule.installments, 0 ≤ installment.amount.units) ∧
        (sevenMonths.installmentCount.toNat ∣ total → ∀ first ∈ schedule.installments,
          ∀ second ∈ schedule.installments, first.amount.units = second.amount.units) := by
  have total : (sevenMonths.schedule hundredDollars hundredDollars.time).map
      (fun schedule => schedule.total.units) = .ok (115 * 10 ^ 28) := by decide +kernel
  cases schedules : sevenMonths.schedule hundredDollars hundredDollars.time with
  | error failure =>
      rw [schedules] at total
      cases total
  | ok schedule =>
      rw [schedules] at total
      have totalUnits : schedule.total.units = 115 * 10 ^ 28 := Except.ok.inj total
      have nonneg : 0 ≤ hundredDollars.units := by decide
      have known : hundredDollars.precision = .ok 2 := by decide +kernel
      have bound : schedule.total.units ≤ 10 ^ 27 * 10 ^ (Decimal.maxScale - 2) := by
        rw [totalUnits]
        decide
      exact ⟨schedule, rfl, nonneg, known, bound,
        installments_even nonneg known schedules bound⟩

end RepaymentTerms

end LoanBook
