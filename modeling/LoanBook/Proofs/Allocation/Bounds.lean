import LoanBook.Allocation
import LoanBook.Proofs.Configuration.Check
import LoanBook.Proofs.Decimal.Bracketing
import LoanBook.Proofs.Money.Exact

/-!
# The bounds on partial offers

The smallest partial offer is the share of the principal that the configuration asks for, rounded to
minor units, and the largest is what that share leaves.  A share of at most a half is not above what
it leaves, but the rounded share can be: half of an odd number of minor units is rounded up.
-/

namespace LoanBook

namespace Decimal

open Rounding

variable {value whole : Decimal} {places : Nat}

section Round

variable (nonneg : 0 ≤ value.units) (short : whole.scale ≤ places) (placesLe : places ≤ maxScale)
include nonneg short placesLe

/-- A value below half of an amount in minor units is rounded to at most half of it. -/
theorem two_mul_units_round_le (below : 2 * value.units < whole.units) :
    2 * (value.round places).units ≤ whole.units := by
  have valueUnits := units_of_nonneg nonneg
  have wholeUnits := @units_of_nonneg whole (by omega)
  rw [magnitude_eq_mul short placesLe] at wholeUnits
  have rounded := @two_mul_halfUp_le value.magnitude (10 ^ (maxScale - places))
    (whole.mantissa * 10 ^ (places - whole.scale)) (Nat.pow_pos (by decide)) (by omega)
  rw [units_round_of_nonneg nonneg placesLe, wholeUnits]
  have scaled := Nat.mul_le_mul_right (10 ^ (maxScale - places)) rounded
  rw [Nat.mul_assoc] at scaled
  exact_mod_cast scaled

theorem le_two_mul_units_round (above : whole.units ≤ 2 * value.units) :
    whole.units ≤ 2 * (value.round places).units := by
  have roundedNonneg := @units_round_nonneg value places nonneg
  by_cases negative : whole.units < 0
  · omega
  · have valueUnits := units_of_nonneg nonneg
    have wholeUnits := @units_of_nonneg whole (by omega)
    rw [magnitude_eq_mul short placesLe] at wholeUnits
    have rounded := @le_two_mul_halfUp value.magnitude (10 ^ (maxScale - places))
      (whole.mantissa * 10 ^ (places - whole.scale)) (Nat.pow_pos (by decide)) (by omega)
    rw [units_round_of_nonneg nonneg placesLe, wholeUnits]
    have scaled := Nat.mul_le_mul_right (10 ^ (maxScale - places)) rounded
    rw [Nat.mul_assoc 2] at scaled
    exact_mod_cast scaled

/-- A value up to half of an amount in minor units is rounded to at most the half, except for the half
itself where that is not in minor units. -/
theorem two_mul_units_round_le_iff {half : Decimal} (halves : 2 * half.units = whole.units)
    (atMost : value.units ≤ half.units) :
    2 * (value.round places).units ≤ whole.units ↔ value < half ∨ half.round places ≈ half := by
  rw [lt_def, equiv_def]
  constructor
  · intro bounded
    by_cases below : value.units < half.units
    · exact Or.inl below
    · have same : value ≈ half := equiv_def.mpr (by omega)
      have rounded := equiv_def.mp (round_congr same nonneg placesLe)
      have above := le_two_mul_units_round nonneg short placesLe (by omega)
      exact Or.inr (by omega)
  · rintro (below | kept)
    · exact two_mul_units_round_le nonneg short placesLe (by omega)
    · have rounded := units_round_le nonneg (show value.units ≤ (half.round places).units by omega)
        (round_scale_le half places) placesLe
      omega

end Round

/-- An amount is made up of two decimals written with its own number of places, which differ by at
most one unit of the last of them. -/
theorem exists_halves (nonneg : 0 ≤ value.units) :
    ∃ lower upper : Decimal, upper.scale = value.scale ∧ 0 ≤ lower.units ∧
      lower.units + upper.units = value.units ∧ lower.units ≤ upper.units ∧
      upper.units ≤ lower.units + (10 ^ (maxScale - value.scale) : Nat) := by
  have bound := value.mantissa_lt
  have lowerLt : value.mantissa / 2 < mantissaBound := by omega
  have upperLt : (value.mantissa + 1) / 2 < mantissaBound := by
    simp only [mantissaBound] at bound ⊢
    omega
  refine ⟨⟨false, value.mantissa / 2, value.scale, lowerLt, value.scale_le⟩,
    ⟨false, (value.mantissa + 1) / 2, value.scale, upperLt, value.scale_le⟩, rfl, ?_⟩
  have parts : value.mantissa = value.mantissa / 2 + (value.mantissa + 1) / 2 := by omega
  have less : value.mantissa / 2 ≤ (value.mantissa + 1) / 2 := by omega
  have near : (value.mantissa + 1) / 2 ≤ value.mantissa / 2 + 1 := by omega
  rw [units_of_nonneg nonneg, units_of_not_negative rfl, units_of_not_negative rfl]
  simp only [magnitude]
  generalize 10 ^ (maxScale - value.scale) = unit
  refine ⟨by omega, ?_, ?_, ?_⟩
  · rw [← Nat.cast_add, ← Nat.add_mul, ← parts]
  · exact_mod_cast Nat.mul_le_mul_right unit less
  · have scaled := Nat.mul_le_mul_right unit near
    rw [Nat.add_mul, Nat.one_mul] at scaled
    exact_mod_cast scaled

section Share

variable {amount rate share remainder half : Decimal}

/-- A share of at most a half is not above any decimal that twice makes up the amount. -/
theorem exists_mul?_le_half (nonneg : 0 ≤ amount.units) (rateNonneg : 0 ≤ rate.units)
    (atMost : 2 * rate.units ≤ 10 ^ maxScale) (enough : amount.units ≤ 2 * half.units) :
    ∃ raw, amount.mul? rate = some raw ∧ 0 ≤ raw.units ∧ raw.units ≤ half.units := by
  refine exists_mul?_le nonneg rateNonneg ?_
  have doubled : 2 * (amount.units * rate.units) ≤ 2 * (half.units * 10 ^ maxScale) := by
    calc
      2 * (amount.units * rate.units) = amount.units * (2 * rate.units) := by ring
      _ ≤ amount.units * 10 ^ maxScale := Int.mul_le_mul_of_nonneg_left atMost nonneg
      _ ≤ 2 * half.units * 10 ^ maxScale := Int.mul_le_mul_of_nonneg_right enough (by positivity)
      _ = 2 * (half.units * 10 ^ maxScale) := by ring
  omega

/-- What a share leaves is at least the share exactly when the share is at most half. -/
theorem le_sub?_iff (nonneg : 0 ≤ share.units) (atMost : share.units ≤ amount.units)
    (subtracts : amount.sub? share = some remainder) :
    share.units ≤ remainder.units ↔ 2 * share.units ≤ amount.units := by
  constructor
  · intro ordered
    by_contra above
    -- less than the share is left, so it has the digits for it
    have fits : (amount.units - share.units).natAbs <
        mantissaBound * 10 ^ (maxScale - max amount.scale share.scale) := by
      rcases Nat.le_total amount.scale share.scale with fewer | more
      · rw [Nat.max_eq_right fewer]
        have size : share.magnitude < mantissaBound * 10 ^ (maxScale - share.scale) :=
          Nat.mul_lt_mul_of_pos_right share.mantissa_lt (Nat.pow_pos (by decide))
        have units := units_of_nonneg nonneg
        omega
      · rw [Nat.max_eq_left more]
        have size : amount.magnitude < mantissaBound * 10 ^ (maxScale - amount.scale) :=
          Nat.mul_lt_mul_of_pos_right amount.mantissa_lt (Nat.pow_pos (by decide))
        have units := @units_of_nonneg amount (by omega)
        omega
    obtain ⟨exact, exactSubtracts, _, exactly⟩ := exists_sub? (Nat.le_max_left amount.scale _)
      (Nat.le_max_right _ share.scale) (Nat.max_le.mpr ⟨amount.scale_le, share.scale_le⟩) fits
    cases subtracts.symm.trans exactSubtracts
    omega
  · intro half
    exact le_units_of_sub? nonneg (by omega) subtracts

end Share

end Decimal

namespace LoanConfig

variable {config : LoanConfig} {principal : Money} {rounded : Rounded} {places : Nat}

theorem two_mul_minInvestmentRate_le (accepted : config.check = .ok ()) :
    2 * config.investment.minInvestmentRate.decimal.units ≤ 10 ^ Decimal.maxScale := by
  have atMost := (check_eq_ok_iff.mp accepted).2.2
  have halfUnits : 2 * Decimal.half.units = 10 ^ Decimal.maxScale := by decide
  rw [Decimal.lt_def] at atMost
  omega

/-- The bounds that an accepted configuration sets on partial offers.  They are in order exactly when
the least is at most half of the principal.  That is so if the share came out below the half, before
it was rounded, or if the half is in minor units; a share that came out at an uneven half is rounded
up, and then the least passes the most, by no more than one unit of the last place of the
principal. -/
theorem least_le_most_iff (accepted : config.check = .ok ())
    (known : principal.precision = .ok places) (rounds : principal.rounded = .ok rounded)
    (nonneg : 0 ≤ rounded.value.units) :
    ∃ share raw, rounded.value.split config.investment.minInvestmentRate = .ok share ∧
      rounded.value.amount.mul? config.investment.minInvestmentRate.decimal = some raw ∧
      (share.taken.amount ≤ share.remainder.amount ↔
        2 * share.taken.units ≤ rounded.value.units) ∧
      (∀ half : Decimal, 2 * half.units = rounded.value.units →
        (share.taken.amount ≤ share.remainder.amount ↔
          raw < half ∨ half.round places ≈ half)) ∧
      share.taken.units ≤ share.remainder.units +
        (10 ^ (Decimal.maxScale - rounded.value.amount.scale) : Nat) := by
  obtain ⟨own, minor, ownKnown, _⟩ := Money.isMinor_of_rounded rounds
  cases ownKnown.symm.trans known
  have placesLe := Money.places_le_maxScale known
  have isPortion := minInvestmentRate_isPortion accepted
  have rateNonneg := (Rate.isPortion_iff.mp isPortion).1
  have atMostHalf := two_mul_minInvestmentRate_le accepted
  obtain ⟨lower, upper, upperScale, lowerNonneg, parts, less, near⟩ := Decimal.exists_halves nonneg
  have unitsEq : rounded.value.amount.units = rounded.value.units := rfl
  obtain ⟨raw, multiplied, rawNonneg, rawLe⟩ := Decimal.exists_mul?_le_half nonneg rateNonneg
    atMostHalf (show rounded.value.amount.units ≤ 2 * upper.units by omega)
  have shareNonneg := @Decimal.units_round_nonneg raw places rawNonneg
  have shareLe : (raw.round places).units ≤ upper.units :=
    Decimal.units_round_le rawNonneg rawLe (upperScale ▸ minor.scale_le) placesLe
  have shareLeAmount : (raw.round places).units ≤ rounded.value.amount.units := by omega
  obtain ⟨remainder, subtracts, _, _⟩ := Decimal.exists_sub?_of_le minor.scale_le
    (Decimal.round_scale_le raw places) shareNonneg shareLeAmount
  have ordered := Decimal.le_sub?_iff shareNonneg shareLeAmount subtracts
  refine ⟨_, raw, Money.split_of_portion isPortion minor.precision_eq multiplied subtracts,
    multiplied, ordered, ?_, ?_⟩
  · intro half halves
    obtain ⟨_, sameMultiplied, _, rawLeHalf⟩ := Decimal.exists_mul?_le_half nonneg rateNonneg
      atMostHalf (show rounded.value.amount.units ≤ 2 * half.units by omega)
    cases multiplied.symm.trans sameMultiplied
    exact ordered.trans (Decimal.two_mul_units_round_le_iff rawNonneg minor.scale_le placesLe
      halves rawLeHalf)
  · have lowerLe := Decimal.le_units_of_sub? lowerNonneg
      (show lower.units ≤ rounded.value.amount.units - (raw.round places).units by omega) subtracts
    show (raw.round places).units ≤ remainder.units + _
    omega

/-- The standard product, with offers from half of the principal. -/
def fromHalf : LoanConfig :=
  { standard with investment := ⟨.ofPercentage 50, .drop⟩ }

/-- Some cents, written with one place more than the dollar has. -/
def cents (count : UInt32) : Money :=
  .dollars (.ofDigits false (10 * count) 3)

/-- Half of four cents is two, which leaves as much. -/
theorem least_le_most_iff_fourCents :
    fromHalf.check = .ok () ∧ ∃ rounded share,
      (cents 4).rounded = .ok rounded ∧ 0 ≤ rounded.value.units ∧
      rounded.value.split fromHalf.investment.minInvestmentRate = .ok share ∧
      share.taken.amount ≤ share.remainder.amount := by
  have accepted : fromHalf.check = .ok () := by decide +kernel
  have known : (cents 4).precision = .ok 2 := by decide +kernel
  have rounds := Money.rounded_eq_ok_iff.mpr ⟨2, known, rfl⟩
  have nonneg : 0 ≤ ((cents 4).amount.round 2).units := by decide +kernel
  obtain ⟨share, _, splits, _, _, ordered, _⟩ := least_le_most_iff accepted known rounds nonneg
  refine ⟨accepted, _, share, rounds, nonneg, splits, ?_⟩
  exact (ordered (.ofDigits false 2 2) (by decide +kernel)).mpr
    (Or.inr (by decide +kernel))

/-- Half of three cents is rounded up to two, which leave one.  Then no partial offer is accepted,
and one cent and two do not cover three. -/
theorem most_lt_least_threeCents :
    fromHalf.check = .ok () ∧ ∃ rounded share,
      (cents 3).rounded = .ok rounded ∧
      rounded.value.split fromHalf.investment.minInvestmentRate = .ok share ∧
      share.remainder.amount < share.taken.amount ∧
      (AllocationTerms.ofConfig fromHalf).allocate (.ofClock 0 1) (cents 3)
          [⟨⟨"first"⟩, none, cents 1⟩, ⟨⟨"second"⟩, none, cents 2⟩]
          (cents 3).time =
        .error (.rejected (.coverage rounded.value)) := by
  have known : (cents 3).precision = .ok 2 := by decide +kernel
  have rounds := Money.rounded_eq_ok_iff.mpr ⟨2, known, rfl⟩
  refine ⟨by decide +kernel, _,
    ⟨{ cents 3 with amount := .ofDigits false 2 2 },
      { cents 3 with amount := .ofDigits false 1 2 }⟩,
    rounds, by decide +kernel, by decide +kernel, by decide +kernel⟩

end LoanConfig

end LoanBook
