import LoanBook.Proofs.Money.Exact

/-!
# Money in minor units

Rounding brings money to the minor unit of its currency, and what is then summed, taken away or
split stays there.  This holds for amounts of every size: an operation may drop digits of a large
result, but never writes more decimal places than its operands have.
-/

namespace LoanBook

namespace Decimal

/-- A decimal with few enough places is a whole number of units of the last of them. -/
theorem exists_units_eq_mul {value : Decimal} {places : Nat} (short : value.scale ≤ places)
    (placesLe : places ≤ maxScale) :
    ∃ count : Int, value.units = count * 10 ^ (maxScale - places) := by
  refine ⟨value.signed * 10 ^ (places - value.scale), ?_⟩
  rw [units, Int.mul_assoc, ← pow_add]
  congr 2
  omega

end Decimal

namespace Money

/-- Money in a known currency, written with no more decimal places than its minor unit has. -/
structure IsMinorOf (currency : Currency) (money : Money) : Prop where
  found : Currency.lookup? money.currency = some currency
  scale_le : money.amount.scale ≤ currency.precision

/-- Money in a known currency, a whole number of minor units of it. -/
def IsMultipleOf (currency : Currency) (money : Money) : Prop :=
  Currency.lookup? money.currency = some currency ∧
    ∃ count : Int, money.units = count * 10 ^ (Decimal.maxScale - currency.precision)

variable {money other : Money} {currency : Currency}

theorem precision_of_found (found : Currency.lookup? money.currency = some currency) :
    money.precision = .ok currency.precision := by
  rw [precision, found]

theorem exists_found_of_precision {places : Nat} (known : money.precision = .ok places) :
    ∃ currency, Currency.lookup? money.currency = some currency := by
  unfold precision at known
  cases found : Currency.lookup? money.currency with
  | none =>
      rw [found] at known
      cases known
  | some currency => exact ⟨currency, rfl⟩

/-- Money in minor units is so for the currency that its code names. -/
theorem IsMinor.exists_isMinorOf {places : Nat} (minor : money.IsMinor places) :
    ∃ currency, money.IsMinorOf currency := by
  obtain ⟨currency, found⟩ := exists_found_of_precision minor.precision_eq
  cases (precision_of_found found).symm.trans minor.precision_eq
  exact ⟨currency, found, minor.scale_le⟩

/-- A running total has no more decimal places than what it starts from and what is added. -/
theorem scale_le_of_foldlM_addTo {code : String} {operands : List Money} {start total : Decimal}
    {places : Nat} (startShort : start.scale ≤ places)
    (each : ∀ operand ∈ operands, operand.amount.scale ≤ places)
    (added : operands.foldlM (addTo code) start = .ok total) : total.scale ≤ places := by
  induction operands generalizing start with
  | nil =>
      cases added
      exact startShort
  | cons operand operands ih =>
      rw [List.foldlM_cons] at added
      obtain ⟨next, addedHere, added⟩ := bind_eq_ok_iff.mp added
      have nextShort := Decimal.scale_le_of_add? startShort (each operand List.mem_cons_self)
        (add?_of_addTo addedHere)
      exact ih nextShort (fun later member => each later (List.mem_cons_of_mem operand member)) added

namespace IsMinorOf

theorem of_rounded {rounded : Rounded} (found : Currency.lookup? money.currency = some currency)
    (rounds : money.rounded = .ok rounded) : rounded.value.IsMinorOf currency := by
  obtain ⟨places, known, rfl⟩ := rounded_eq_ok_iff.mp rounds
  cases (precision_of_found found).symm.trans known
  exact ⟨found, Decimal.round_scale_le _ _⟩

/-- Rounding succeeds in a known currency only. -/
theorem exists_of_rounded {rounded : Rounded} (rounds : money.rounded = .ok rounded) :
    ∃ currency, rounded.value.IsMinorOf currency := by
  obtain ⟨places, known, _⟩ := rounded_eq_ok_iff.mp rounds
  obtain ⟨currency, found⟩ := exists_found_of_precision known
  exact ⟨currency, of_rounded found rounds⟩

variable (minor : money.IsMinorOf currency)
include minor

theorem isMinor : money.IsMinor currency.precision :=
  ⟨precision_of_found minor.found, minor.scale_le⟩

theorem isMultipleOf : money.IsMultipleOf currency :=
  ⟨minor.found, Decimal.exists_units_eq_mul minor.scale_le
    (places_le_maxScale minor.isMinor.precision_eq)⟩

/-- Other money of the same currency that is no longer in places is in minor units, too. -/
theorem of_eq (same : other.currency = money.currency)
    (short : other.amount.scale ≤ currency.precision) : other.IsMinorOf currency :=
  ⟨same ▸ minor.found, short⟩

theorem negate : money.negate.IsMinorOf currency :=
  ⟨minor.found, minor.scale_le⟩

theorem split {portion : Rate} {parts : Split} (splits : money.split portion = .ok parts) :
    parts.taken.IsMinorOf currency ∧ parts.remainder.IsMinorOf currency := by
  obtain ⟨_, raw, difference, _, subtracts, rfl⟩ :=
    parts_of_split (precision_of_found minor.found) splits
  have short := Decimal.round_scale_le raw currency.precision
  -- the remainder is never rounded: it has the places of the two amounts it comes from
  exact ⟨minor.of_eq rfl short,
    minor.of_eq rfl (Decimal.scale_le_of_sub? minor.scale_le short subtracts)⟩

theorem sum {operands : List Money} {total : Money}
    (each : ∀ operand ∈ operands, operand.amount.scale ≤ currency.precision)
    (sums : money.sum operands = .ok total) : total.IsMinorOf currency := by
  obtain ⟨amount, added, same⟩ := bind_eq_ok_iff.mp sums
  cases same
  exact minor.of_eq rfl (scale_le_of_foldlM_addTo minor.scale_le each added)

theorem minus {difference : Money} (otherMinor : other.IsMinorOf currency)
    (leaves : money.minus other = .ok difference) : difference.IsMinorOf currency :=
  minor.sum (List.forall_mem_singleton.mpr otherMinor.negate.scale_le) leaves

end IsMinorOf

end Money

end LoanBook
