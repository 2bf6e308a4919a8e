import LoanBook.Money.Split
import LoanBook.Proofs.Decimal.Products
import LoanBook.Proofs.Decimal.Sums
import LoanBook.Proofs.Failure.Steps
import Mathlib.Algebra.Order.BigOperators.Group.List

/-!
# Exact money

Money in minor units of a known currency is added, taken away and split without loss, as long as
the amounts fit into 96 bits of minor units.
-/

namespace LoanBook

/-- An amount that a number of decimal places has room for. -/
def Decimal.FitsMinor (places : Nat) (units : Int) : Prop :=
  units.natAbs < Decimal.mantissaBound * 10 ^ (Decimal.maxScale - places)

theorem Decimal.FitsMinor.of_le {places : Nat} {units larger : Int}
    (fits : FitsMinor places larger) (nonneg : 0 ≤ units) (less : units ≤ larger) :
    FitsMinor places units :=
  Nat.lt_of_le_of_lt (by omega) fits

/-- A portion is a rate from nothing to one. -/
theorem Rate.isPortion_iff {rate : Rate} :
    rate.IsPortion ↔ 0 ≤ rate.decimal.units ∧ rate.decimal.units ≤ 10 ^ Decimal.maxScale := by
  rw [Rate.IsPortion, Decimal.le_def, Decimal.le_def, Decimal.units_zero, Decimal.units_one]

theorem Decimal.toNat_lt_mantissaBound (digits : UInt32) : digits.toNat < mantissaBound :=
  Nat.lt_trans digits.toNat_lt (by decide)

/-- A decimal of few digits, so many of them after the point. -/
def Decimal.ofDigits (negative : Bool) (digits : UInt32) (places : Nat) : Decimal where
  negative := negative
  mantissa := digits.toNat
  scale := min places maxScale
  mantissa_lt := toNat_lt_mantissaBound digits
  scale_le := Nat.min_le_right places maxScale

/-- The instant that Unix time is counted from. -/
def Calendar.Instant.epoch : Calendar.Instant :=
  (ofUnixSeconds? 0).get (by decide +kernel)

namespace Money

/-- The number of units of `10 ^ -28` of money. -/
def units (money : Money) : Int :=
  money.amount.units

/-- Dollars as of the start of Unix time. -/
def dollars (amount : Decimal) : Money :=
  ⟨"USD", amount, .epoch, ""⟩

/-- Money in a known currency that is a whole number of minor units, written as such. -/
structure IsMinor (places : Nat) (money : Money) : Prop where
  precision_eq : money.precision = .ok places
  scale_le : money.amount.scale ≤ places

variable {money other : Money} {places : Nat}

theorem precision_congr (same : money.currency = other.currency) :
    money.precision = other.precision := by
  unfold precision
  rw [same]

theorem places_le (known : money.precision = .ok places) : places ≤ 4 := by
  unfold precision at known
  split at known
  · rename_i currency found
    cases known
    exact Currency.precision_of_lookup? found
  · cases known

theorem places_le_maxScale (known : money.precision = .ok places) : places ≤ Decimal.maxScale :=
  Nat.le_trans (places_le known) (by decide)

theorem rounded_eq_ok_iff {rounded : Rounded} :
    money.rounded = .ok rounded ↔ ∃ places, money.precision = .ok places ∧
      rounded = ⟨{ money with amount := money.amount.round places },
        if money.amount.round places ≈ money.amount then none
        else some ⟨money.currency, money.amount, money.amount.round places⟩⟩ := by
  rw [Money.rounded, bind_eq_ok_iff]
  constructor
  · rintro ⟨places, known, same⟩
    cases same
    exact ⟨places, known, rfl⟩
  · rintro ⟨places, known, rfl⟩
    exact ⟨places, known, rfl⟩

theorem isMinor_of_rounded {rounded : Rounded} (rounds : money.rounded = .ok rounded) :
    ∃ places, rounded.value.IsMinor places ∧ money.precision = .ok places ∧
      rounded.value = { money with amount := money.amount.round places } := by
  obtain ⟨places, known, rfl⟩ := rounded_eq_ok_iff.mp rounds
  exact ⟨places, ⟨known, Decimal.round_scale_le _ _⟩, known, rfl⟩

/-- Money in minor units is not changed by rounding. -/
theorem IsMinor.value_of_rounded {rounded : Rounded} (minor : money.IsMinor places)
    (rounds : money.rounded = .ok rounded) : rounded.value = money := by
  obtain ⟨_, known, rfl⟩ := rounded_eq_ok_iff.mp rounds
  cases minor.precision_eq.symm.trans known
  show { money with amount := _ } = money
  rw [Decimal.round_of_scale_le minor.scale_le]

theorem IsMinor.rounded_eq (minor : money.IsMinor places) : money.rounded = .ok ⟨money, none⟩ := by
  refine rounded_eq_ok_iff.mpr ⟨places, minor.precision_eq, ?_⟩
  rw [Decimal.round_of_scale_le minor.scale_le, if_pos rfl]

theorem addTo_of_some {currency : String} {total larger : Decimal}
    (same : other.currency = currency) (added : total.add? other.amount = some larger) :
    addTo currency total other = .ok larger := by
  rw [addTo, if_neg (not_not_intro same), added]

theorem add?_of_addTo {currency : String} {total larger : Decimal}
    (added : addTo currency total other = .ok larger) :
    total.add? other.amount = some larger := by
  unfold addTo at added
  by_cases same : other.currency = currency
  · rw [if_neg (not_not_intro same)] at added
    cases sum : total.add? other.amount with
    | none => simp [sum, rejectIssue, reject] at added
    | some amount => simpa [sum] using added
  · rw [if_pos same] at added
    cases added

/-- Amounts in minor units are summed exactly while they all fit together, whatever their signs. -/
theorem exists_foldlM_addTo_of_fits {currency : String} {operands : List Money} {start : Decimal}
    (placesLe : places ≤ Decimal.maxScale) (startShort : start.scale ≤ places)
    (each : ∀ operand ∈ operands, operand.currency = currency ∧ operand.amount.scale ≤ places)
    (fits : start.units.natAbs + (operands.map fun operand => operand.units.natAbs).sum <
      Decimal.mantissaBound * 10 ^ (Decimal.maxScale - places)) :
    ∃ total, operands.foldlM (addTo currency) start = .ok total ∧ total.scale ≤ places ∧
      total.units = start.units + (operands.map units).sum := by
  induction operands generalizing start with
  | nil => exact ⟨start, rfl, startShort, by simp⟩
  | cons operand operands ih =>
      obtain ⟨⟨currencyEq, short⟩, later⟩ := List.forall_mem_cons.mp each
      rw [List.map_cons, List.sum_cons] at fits
      have amountUnits : operand.amount.units = operand.units := rfl
      obtain ⟨next, added, nextShort, nextUnits⟩ :=
        Decimal.exists_add? startShort short placesLe (by omega)
      obtain ⟨sum, summed, sumShort, sumUnits⟩ := ih nextShort later (by omega)
      refine ⟨sum, ?_, sumShort, ?_⟩
      · rw [List.foldlM_cons, addTo_of_some currencyEq added]
        exact summed
      · rw [sumUnits, nextUnits, List.map_cons, List.sum_cons, amountUnits, Int.add_assoc]

theorem sum_natAbs_of_nonneg {operands : List Money}
    (nonneg : ∀ operand ∈ operands, 0 ≤ operand.units) :
    ((operands.map fun operand => operand.units.natAbs).sum : Nat) =
      (operands.map units).sum := by
  induction operands with
  | nil => rfl
  | cons operand operands ih =>
      obtain ⟨first, later⟩ := List.forall_mem_cons.mp nonneg
      rw [List.map_cons, List.sum_cons, List.map_cons, List.sum_cons, ← ih later]
      omega

/-- Amounts in minor units and not below zero are summed exactly while the total fits. -/
theorem exists_foldlM_addTo {currency : String} {operands : List Money} {start : Decimal}
    (placesLe : places ≤ Decimal.maxScale) (startShort : start.scale ≤ places)
    (startNonneg : 0 ≤ start.units)
    (each : ∀ operand ∈ operands, operand.currency = currency ∧
      operand.amount.scale ≤ places ∧ 0 ≤ operand.units)
    (fits : Decimal.FitsMinor places (start.units + (operands.map units).sum)) :
    ∃ total, operands.foldlM (addTo currency) start = .ok total ∧ total.scale ≤ places ∧
      total.units = start.units + (operands.map units).sum := by
  refine exists_foldlM_addTo_of_fits placesLe startShort
    (fun operand member => ⟨(each operand member).1, (each operand member).2.1⟩) ?_
  have total := sum_natAbs_of_nonneg fun operand member => (each operand member).2.2
  unfold Decimal.FitsMinor at fits
  omega

theorem exists_sum {operands : List Money} (minor : money.IsMinor places) (nonneg : 0 ≤ money.units)
    (each : ∀ operand ∈ operands, operand.currency = money.currency ∧
      operand.amount.scale ≤ places ∧ 0 ≤ operand.units)
    (fits : Decimal.FitsMinor places (money.units + (operands.map units).sum)) :
    ∃ amount, money.sum operands = .ok { money with amount } ∧ amount.scale ≤ places ∧
      amount.units = money.units + (operands.map units).sum := by
  obtain ⟨amount, summed, short, total⟩ := exists_foldlM_addTo
    (places_le_maxScale minor.precision_eq) minor.scale_le nonneg each fits
  refine ⟨amount, ?_, short, total⟩
  rw [Money.sum, summed]
  rfl

/-- Amounts in minor units and not below zero are summed to such an amount. -/
theorem foldlM_addTo_nonneg {currency : String} {operands : List Money} {start total : Decimal}
    (startShort : start.scale ≤ places) (startNonneg : 0 ≤ start.units)
    (each : ∀ operand ∈ operands, operand.amount.scale ≤ places ∧ 0 ≤ operand.units)
    (summed : operands.foldlM (addTo currency) start = .ok total) :
    total.scale ≤ places ∧ 0 ≤ total.units := by
  induction operands generalizing start with
  | nil =>
      cases summed
      exact ⟨startShort, startNonneg⟩
  | cons operand operands ih =>
      obtain ⟨short, nonneg⟩ := each operand List.mem_cons_self
      rw [List.foldlM_cons] at summed
      obtain ⟨next, added, summed⟩ := bind_eq_ok_iff.mp summed
      have added := add?_of_addTo added
      exact ih (Decimal.scale_le_of_add? startShort short added)
        (Decimal.units_nonneg_of_add? (Int.add_nonneg startNonneg nonneg) added)
        (fun other member => each other (List.mem_cons_of_mem operand member)) summed

theorem isMinor_of_sum {operands : List Money} {total : Money} (minor : money.IsMinor places)
    (nonneg : 0 ≤ money.units)
    (each : ∀ operand ∈ operands, operand.amount.scale ≤ places ∧ 0 ≤ operand.units)
    (summed : money.sum operands = .ok total) : total.IsMinor places ∧ 0 ≤ total.units := by
  obtain ⟨amount, added, same⟩ := bind_eq_ok_iff.mp summed
  cases same
  obtain ⟨short, totalNonneg⟩ := foldlM_addTo_nonneg minor.scale_le nonneg each added
  exact ⟨⟨minor.precision_eq, short⟩, totalNonneg⟩

theorem minus_eq_ok_iff {difference : Money} :
    money.minus other = .ok difference ↔ other.currency = money.currency ∧
      ∃ amount, money.amount.add? other.amount.negate = some amount ∧
        difference = { money with amount } := by
  rw [minus, Money.sum, bind_eq_ok_iff]
  simp only [List.foldlM_cons, List.foldlM_nil, bind_pure, addTo, Money.negate]
  by_cases same : other.currency = money.currency
  · simp only [same, ne_eq, not_true_eq_false, if_false, true_and]
    cases money.amount.add? other.amount.negate with
    | none => simp [rejectIssue, reject]
    | some amount => simp [pure, Except.pure, eq_comm]
  · simp [same, reject]

/-- What is left when less is taken away from money in minor units is again in minor units and above
zero, if it is not too large. -/
theorem isMinor_of_minus {difference : Money} (minor : money.IsMinor places)
    (short : other.amount.scale ≤ places) (less : other.units < money.units)
    (leaves : money.minus other = .ok difference) :
    difference.IsMinor places ∧ 0 < difference.units := by
  obtain ⟨_, amount, added, rfl⟩ := minus_eq_ok_iff.mp leaves
  have positive : 0 < money.amount.units + other.amount.negate.units := by
    rw [Decimal.units_negate]
    unfold units at less
    omega
  exact ⟨⟨minor.precision_eq, Decimal.scale_le_of_add? minor.scale_le
    (show other.amount.negate.scale ≤ places from short) added⟩,
    Decimal.units_pos_of_add? positive added⟩

/-- An amount in minor units is taken away exactly from one at least as large. -/
theorem exists_minus (minor : money.IsMinor places) (same : other.currency = money.currency)
    (short : other.amount.scale ≤ places) (nonneg : 0 ≤ other.units)
    (less : other.units ≤ money.units) (fits : Decimal.FitsMinor places money.units) :
    ∃ amount, money.minus other = .ok { money with amount } ∧ amount.scale ≤ places ∧
      amount.units = money.units - other.units := by
  have bound : Decimal.FitsMinor places (money.amount.units + other.amount.negate.units) := by
    rw [Decimal.units_negate]
    unfold units at nonneg less fits
    exact fits.of_le (by omega) (by omega)
  obtain ⟨amount, added, amountShort, total⟩ := Decimal.exists_add? minor.scale_le
    (show other.amount.negate.scale ≤ places from short)
    (places_le_maxScale minor.precision_eq) bound
  refine ⟨amount, minus_eq_ok_iff.mpr ⟨same, amount, added, rfl⟩, amountShort, ?_⟩
  rw [total, Decimal.units_negate]
  rfl

/-- Money split in two: both parts are in minor units of the currency and make up the whole. -/
structure IsSplit (places : Nat) (money : Money) (split : Split) : Prop where
  taken_minor : split.taken.IsMinor places
  remainder_minor : split.remainder.IsMinor places
  taken_eq : split.taken = { money with amount := split.taken.amount }
  remainder_eq : split.remainder = { money with amount := split.remainder.amount }
  taken_nonneg : 0 ≤ split.taken.units
  taken_le : split.taken.units ≤ money.units
  remainder_units : split.remainder.units = money.units - split.taken.units

theorem split_of_portion {portion : Rate} {raw difference : Decimal}
    (isPortion : portion.IsPortion) (known : money.precision = .ok places)
    (multiplied : money.amount.mul? portion.decimal = some raw)
    (leaves : money.amount.sub? (raw.round places) = some difference) :
    money.split portion =
      .ok ⟨{ money with amount := raw.round places }, { money with amount := difference }⟩ := by
  have rounds := rounded_eq_ok_iff.mpr
    ⟨places, (precision_congr rfl : Money.precision { money with amount := raw } = _).trans known,
      rfl⟩
  rw [Money.split, if_pos isPortion, multiplied]
  dsimp only
  rw [rounds, ok_bind, leaves]
  rfl

/-- What a split takes is the rounded product, and what it leaves is the difference. -/
theorem parts_of_split {portion : Rate} {split : Split} (known : money.precision = .ok places)
    (splits : money.split portion = .ok split) :
    portion.IsPortion ∧ ∃ raw difference, money.amount.mul? portion.decimal = some raw ∧
      money.amount.sub? (raw.round places) = some difference ∧
      split = ⟨{ money with amount := raw.round places }, { money with amount := difference }⟩ := by
  unfold Money.split at splits
  by_cases isPortion : portion.IsPortion
  · rw [if_pos isPortion] at splits
    cases multiplied : money.amount.mul? portion.decimal with
    | none =>
        rw [multiplied] at splits
        cases splits
    | some raw =>
        rw [multiplied] at splits
        obtain ⟨taken, rounds, splits⟩ := bind_eq_ok_iff.mp splits
        obtain ⟨own, ownKnown, rfl⟩ := rounded_eq_ok_iff.mp rounds
        cases known.symm.trans ((precision_congr rfl).trans ownKnown)
        dsimp only at splits
        cases subtracts : money.amount.sub? (raw.round places) with
        | none =>
            rw [subtracts] at splits
            cases splits
        | some difference =>
            rw [subtracts] at splits
            cases splits
            exact ⟨isPortion, raw, difference, rfl, subtracts, rfl⟩
  · rw [if_neg isPortion] at splits
    cases splits

theorem taken_of_split {portion : Rate} {split : Split} (known : money.precision = .ok places)
    (splits : money.split portion = .ok split) :
    portion.IsPortion ∧ ∃ raw, money.amount.mul? portion.decimal = some raw ∧
      split.taken = { money with amount := raw.round places } := by
  obtain ⟨isPortion, raw, _, multiplied, _, rfl⟩ := parts_of_split known splits
  exact ⟨isPortion, raw, multiplied, rfl⟩

/-- What a split takes depends on the number and not on how it is written. -/
theorem taken_units_congr {portion : Rate} {split otherSplit : Split}
    (known : money.precision = .ok places) (otherKnown : other.precision = .ok places)
    (nonneg : 0 ≤ money.units) (same : money.amount ≈ other.amount)
    (splits : money.split portion = .ok split)
    (otherSplits : other.split portion = .ok otherSplit) :
    split.taken.units = otherSplit.taken.units := by
  obtain ⟨isPortion, raw, multiplied, takenEq⟩ := taken_of_split known splits
  obtain ⟨_, otherRaw, otherMultiplied, otherTakenEq⟩ := taken_of_split otherKnown otherSplits
  obtain ⟨portionNonneg, portionLe⟩ := Rate.isPortion_iff.mp isPortion
  obtain ⟨_, rawEq, rawNonneg, _⟩ :=
    Decimal.exists_mul?_portion nonneg portionNonneg portionLe
  cases multiplied.symm.trans rawEq
  have rawSame : raw ≈ otherRaw := by
    have mapped := @Decimal.mul?_congr money.amount portion.decimal other.amount same
    rw [multiplied, otherMultiplied] at mapped
    exact Option.some.inj mapped
  rw [takenEq, otherTakenEq]
  exact Decimal.round_congr rawSame rawNonneg (places_le_maxScale known)

/-- The part that a portion takes from an amount in minor units is no larger than it, and all of it
for the whole portion. -/
theorem exists_taken {portion : Rate} (minor : money.IsMinor places) (nonneg : 0 ≤ money.units)
    (isPortion : portion.IsPortion) :
    ∃ raw, money.amount.mul? portion.decimal = some raw ∧ 0 ≤ (raw.round places).units ∧
      (raw.round places).units ≤ money.units ∧
      (portion.decimal ≈ Decimal.one → (raw.round places).units = money.units) := by
  have placesLe := places_le_maxScale minor.precision_eq
  obtain ⟨portionNonneg, portionLe⟩ := Rate.isPortion_iff.mp isPortion
  obtain ⟨raw, multiplied, rawNonneg, rawLe, rawWhole⟩ :=
    Decimal.exists_mul?_portion nonneg portionNonneg portionLe
  refine ⟨raw, multiplied, Decimal.units_round_nonneg rawNonneg,
    Decimal.units_round_le rawNonneg rawLe minor.scale_le placesLe, ?_⟩
  intro whole
  rw [Decimal.equiv_def, Decimal.units_one] at whole
  have same : raw ≈ money.amount := Decimal.equiv_def.mpr (rawWhole whole)
  exact Decimal.equiv_def.mp
    (Decimal.round_equiv_of_equiv same rawNonneg minor.scale_le placesLe)

/-- Splitting a portion off an amount in minor units succeeds and loses nothing; the whole portion
takes everything. -/
theorem exists_split {portion : Rate} (minor : money.IsMinor places) (nonneg : 0 ≤ money.units)
    (fits : Decimal.FitsMinor places money.units) (isPortion : portion.IsPortion) :
    ∃ split, money.split portion = .ok split ∧ money.IsSplit places split ∧
      (portion.decimal ≈ Decimal.one → split.taken.units = money.units) := by
  have placesLe := places_le_maxScale minor.precision_eq
  obtain ⟨raw, multiplied, takenNonneg, takenLe, whole⟩ := exists_taken minor nonneg isPortion
  have bound : Decimal.FitsMinor places (money.amount.units - (raw.round places).units) := by
    unfold units at fits takenLe
    exact fits.of_le (by omega) (by omega)
  obtain ⟨difference, leaves, short, differenceUnits⟩ := Decimal.exists_sub? minor.scale_le
    (Decimal.round_scale_le raw places) placesLe bound
  refine ⟨_, split_of_portion isPortion minor.precision_eq multiplied leaves, ?_, whole⟩
  exact
    { taken_minor := ⟨minor.precision_eq, Decimal.round_scale_le raw places⟩
      remainder_minor := ⟨minor.precision_eq, short⟩
      taken_eq := rfl
      remainder_eq := rfl
      taken_nonneg := takenNonneg
      taken_le := takenLe
      remainder_units := differenceUnits }

/-- Money split in two, neither part below zero; both are in minor units of the currency, but they
need not make up a whole that is too large for that. -/
structure IsParted (places : Nat) (split : Split) : Prop where
  taken_minor : split.taken.IsMinor places
  remainder_minor : split.remainder.IsMinor places
  taken_nonneg : 0 ≤ split.taken.units
  remainder_nonneg : 0 ≤ split.remainder.units

/-- Splitting a portion off an amount in minor units succeeds, however large the amount is; the
whole portion leaves nothing. -/
theorem exists_isParted {portion : Rate} (minor : money.IsMinor places) (nonneg : 0 ≤ money.units)
    (isPortion : portion.IsPortion) :
    ∃ split, money.split portion = .ok split ∧ IsParted places split ∧
      (portion.decimal ≈ Decimal.one → split.remainder.units = 0) := by
  have placesLe := places_le_maxScale minor.precision_eq
  obtain ⟨raw, multiplied, takenNonneg, takenLe, whole⟩ := exists_taken minor nonneg isPortion
  have takenShort := Decimal.round_scale_le raw places
  obtain ⟨difference, leaves, short, differenceNonneg⟩ :=
    Decimal.exists_sub?_of_le minor.scale_le takenShort takenNonneg takenLe
  refine ⟨_, split_of_portion isPortion minor.precision_eq multiplied leaves, ?_, ?_⟩
  · exact
      { taken_minor := ⟨minor.precision_eq, takenShort⟩
        remainder_minor := ⟨minor.precision_eq, short⟩
        taken_nonneg := takenNonneg
        remainder_nonneg := differenceNonneg }
  · intro isOne
    exact Decimal.units_of_sub?_of_equiv (Decimal.equiv_def.mpr (whole isOne).symm) leaves

/-- Parts split off an amount are added to it exactly while the total fits. -/
theorem exists_sum_taken {splits : List Split} (minor : money.IsMinor places)
    (nonneg : 0 ≤ money.units) (each : ∀ split ∈ splits, money.IsSplit places split)
    (fits : Decimal.FitsMinor places
      (money.units + (splits.map fun split => split.taken.units).sum)) :
    ∃ amount, money.sum (splits.map Split.taken) = .ok { money with amount } ∧
      amount.scale ≤ places ∧
      amount.units = money.units + (splits.map fun split => split.taken.units).sum := by
  have unitsEq : (splits.map Split.taken).map units =
      splits.map fun split => split.taken.units := by
    rw [List.map_map]
    rfl
  rw [← unitsEq] at fits ⊢
  apply exists_sum minor nonneg _ fits
  intro operand member
  obtain ⟨split, splitMem, rfl⟩ := List.mem_map.mp member
  have isSplit := each split splitMem
  exact ⟨by rw [isSplit.taken_eq], isSplit.taken_minor.scale_le, isSplit.taken_nonneg⟩

end Money

end LoanBook
