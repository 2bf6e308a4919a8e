import LoanBook.Proofs.Decimal.Signs
import LoanBook.Proofs.Money.MinorUnits

/-!
# Money rounded to the nearest minor unit

Of all multiples of the minor unit of its currency, money is rounded to the nearest one, and of two
nearest ones to the one farther from zero.  This names one number, whatever the sign, the size and the
number of places of the amount.  Nothing but the amount changes, the change is noticed exactly when
there is one, and rounding again changes nothing.
-/

namespace LoanBook

namespace Rounding

/-- A multiple of a unit is nearest to a number, and no other one as near is farther from zero. -/
structure IsNearestMultiple (unit exact found : Int) : Prop where
  multiple : unit ∣ found
  nearest : ∀ other, unit ∣ other → (found - exact).natAbs ≤ (other - exact).natAbs
  outward : ∀ other, unit ∣ other → (other - exact).natAbs = (found - exact).natAbs →
    other.natAbs ≤ found.natAbs

variable {unit exact found other : Int}

namespace IsNearestMultiple

/-- There is only one: two numbers as far from zero and as near to a third are the same, unless they
lie on both sides of zero and the third one is zero. -/
theorem unique (isNearest : IsNearestMultiple unit exact found)
    (otherNearest : IsNearestMultiple unit exact other) : other = found := by
  have near := isNearest.nearest other otherNearest.multiple
  have otherNear := otherNearest.nearest found isNearest.multiple
  have far := isNearest.outward other otherNearest.multiple (by omega)
  have otherFar := otherNearest.outward found isNearest.multiple (by omega)
  have zeroNear := isNearest.nearest 0 (dvd_zero unit)
  omega

/-- The multiple nearest to a number of the other sign is the one nearest to it, mirrored. -/
theorem neg (isNearest : IsNearestMultiple unit exact found) :
    IsNearestMultiple unit (-exact) (-found) where
  multiple := Int.dvd_neg.mpr isNearest.multiple
  nearest other multiple := by
    have near := isNearest.nearest (-other) (Int.dvd_neg.mpr multiple)
    omega
  outward other multiple same := by
    have far := isNearest.outward (-other) (Int.dvd_neg.mpr multiple) (by omega)
    omega

/-- Only what lies above zero is brought above zero. -/
theorem pos (isNearest : IsNearestMultiple unit exact found) (positive : 0 < found) : 0 < exact := by
  have near := isNearest.nearest 0 (dvd_zero unit)
  omega

/-- What lies above zero is not brought below. -/
theorem nonneg (isNearest : IsNearestMultiple unit exact found) (positive : 0 < exact) :
    0 ≤ found := by
  have near := isNearest.nearest 0 (dvd_zero unit)
  omega

/-- A multiple is the one nearest to itself. -/
theorem refl (multiple : unit ∣ exact) : IsNearestMultiple unit exact exact where
  multiple := multiple
  nearest other _ := by omega
  outward other _ same := by omega

/-- Nothing changes for multiples, and for them only. -/
theorem eq_iff_dvd (isNearest : IsNearestMultiple unit exact found) :
    found = exact ↔ unit ∣ exact := by
  constructor
  · rintro rfl
    exact isNearest.multiple
  · intro multiple
    exact (refl multiple).unique isNearest

end IsNearestMultiple

/-- Rounding a quotient halves up finds the multiple of the denominator nearest to the numerator. -/
theorem halfUp_isNearestMultiple {numerator denominator : Nat} (positive : 0 < denominator) :
    IsNearestMultiple denominator numerator (halfUp numerator denominator * denominator : Nat) := by
  have low := (le_halfUp_iff positive).mp (Nat.le_refl (halfUp numerator denominator))
  have high := (halfUp_le_iff positive).mp (Nat.le_refl (halfUp numerator denominator))
  -- any other multiple is at least a whole denominator away, on one side or the other
  have apart (count : Int) : denominator * count = halfUp numerator denominator * denominator ∨
      denominator * count + denominator ≤ halfUp numerator denominator * denominator ∨
      (halfUp numerator denominator * denominator : Int) + denominator ≤ denominator * count := by
    rcases Int.lt_trichotomy count (halfUp numerator denominator) with below | same | above
    · refine Or.inr (Or.inl ?_)
      have scaled := Int.mul_le_mul_of_nonneg_right below (Int.natCast_nonneg denominator)
      linarith
    · exact Or.inl (by rw [same, Int.mul_comm])
    · refine Or.inr (Or.inr ?_)
      have scaled := Int.mul_le_mul_of_nonneg_right above (Int.natCast_nonneg denominator)
      linarith
  constructor
  · exact ⟨halfUp numerator denominator, by push_cast; ring⟩
  · rintro _ ⟨count, rfl⟩
    have sides := apart count
    push_cast
    omega
  · rintro _ ⟨count, rfl⟩ same
    have sides := apart count
    push_cast at same ⊢
    omega

end Rounding

/-- A decimal is rounded to the multiple of the last place left that is nearest to it. -/
theorem Decimal.round_isNearestMultiple (value : Decimal) {places : Nat}
    (placesLe : places ≤ maxScale) :
    Rounding.IsNearestMultiple (10 ^ (maxScale - places)) value.units
      (value.round places).units := by
  have ofNonneg {other : Decimal} (nonneg : 0 ≤ other.units) :
      Rounding.IsNearestMultiple (10 ^ (maxScale - places)) other.units
        (other.round places).units := by
    rw [units_round_of_nonneg nonneg placesLe, units_of_nonneg nonneg]
    exact_mod_cast Rounding.halfUp_isNearestMultiple (Nat.pow_pos (by decide))
  rcases Int.le_total 0 value.units with nonneg | nonpos
  · exact ofNonneg nonneg
  · have mirrored := (@ofNonneg value.negate (by rw [units_negate]; omega)).neg
    rwa [round_negate, units_negate, Int.neg_neg, Int.neg_neg] at mirrored

namespace Money

variable {money : Money} {currency : Currency}

theorem isMultipleOf_iff_dvd (found : Currency.lookup? money.currency = some currency) :
    money.IsMultipleOf currency ↔ 10 ^ (Decimal.maxScale - currency.precision) ∣ money.units := by
  rw [IsMultipleOf, and_iff_right found, dvd_def]
  simp only [Int.mul_comm]

/-- Money in a known currency, with an amount of either sign, of any size and with any number of
places, is rounded to the one multiple of the minor unit that is nearest to it, or on a tie to the
one farther from zero, and keeps everything else.  There is a notice, with the amount as it was and
as it is, exactly when the amount was no multiple already.  What is rounded stays as it is when it
is rounded again. -/
theorem rounded_nearest (found : Currency.lookup? money.currency = some currency) :
    ∃ rounded, money.rounded = .ok rounded ∧
      (∀ units, Rounding.IsNearestMultiple (10 ^ (Decimal.maxScale - currency.precision))
        money.units units ↔ units = rounded.value.units) ∧
      rounded.value = { money with amount := rounded.value.amount } ∧
      (money.IsMultipleOf currency → rounded.mismatch = none) ∧
      (¬money.IsMultipleOf currency →
        rounded.mismatch = some ⟨money.currency, money.amount, rounded.value.amount⟩) ∧
      rounded.value.rounded = .ok ⟨rounded.value, none⟩ := by
  have known := precision_of_found found
  have rounds := rounded_eq_ok_iff.mpr ⟨_, known, rfl⟩
  have isNearest := money.amount.round_isNearestMultiple (places_le_maxScale known)
  have changed : money.amount.round currency.precision ≈ money.amount ↔
      money.IsMultipleOf currency := by
    rw [isMultipleOf_iff_dvd found, Decimal.equiv_def]
    constructor
    · intro same
      have multiple := isNearest.multiple
      rwa [same] at multiple
    · intro multiple
      exact (Rounding.IsNearestMultiple.refl multiple).unique isNearest
  refine ⟨_, rounds, fun units => ⟨fun nearest => isNearest.unique nearest, ?_⟩, rfl, ?_, ?_, ?_⟩
  · rintro rfl
    exact isNearest
  · exact fun multiple => if_pos (changed.mpr multiple)
  · exact fun fraction => if_neg fun same => fraction (changed.mp same)
  · exact (IsMinorOf.of_rounded found rounds).isMinor.rounded_eq

/-- A debt of an eighth of a dollar lies halfway between twelve cents and thirteen. -/
theorem rounded_nearest_eighth :
    Currency.lookup? (dollars (.ofDigits true 125 3)).currency = some ⟨"USD", 2⟩ ∧
      ∃ rounded, (dollars (.ofDigits true 125 3)).rounded = .ok rounded ∧
        rounded.value.units = -13 * 10 ^ 26 ∧
        rounded.mismatch = some ⟨"USD", .ofDigits true 125 3, rounded.value.amount⟩ ∧
        rounded.value.rounded = .ok ⟨rounded.value, none⟩ := by
  have found : Currency.lookup? (dollars (.ofDigits true 125 3)).currency = some ⟨"USD", 2⟩ := by
    decide +kernel
  have fraction : ¬(dollars (.ofDigits true 125 3)).IsMultipleOf ⟨"USD", 2⟩ := by
    rw [isMultipleOf_iff_dvd found]
    decide +kernel
  obtain ⟨rounded, rounds, nearest, _, _, noticed, again⟩ := rounded_nearest found
  have units : rounded.value.units = ((Decimal.ofDigits true 125 3).round 2).units :=
    ((nearest _).mp ((Decimal.ofDigits true 125 3).round_isNearestMultiple (by decide))).symm
  exact ⟨found, rounded, rounds, units.trans (by decide +kernel), noticed fraction, again⟩

end Money

end LoanBook
