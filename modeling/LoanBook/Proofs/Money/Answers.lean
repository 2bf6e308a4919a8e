import LoanBook.Proofs.Money.Remainder

/-!
# What splitting money answers

Splitting money is refused for a rate that is no portion and for a currency that is not known, in
this order, and for nothing else.  In particular no product and no difference on the way is too large
for a decimal, whatever the sign, the size and the number of places of the amount.
-/

namespace LoanBook

/-- A portion of an amount can be computed, and rounded to any number of places it can be taken
away from the amount. -/
theorem Decimal.exists_mul?_and_sub? (amount : Decimal) {portion : Rate}
    (isPortion : portion.IsPortion) :
    ∃ raw, amount.mul? portion.decimal = some raw ∧ ∀ places ≤ maxScale, ∃ remainder,
      amount.sub? (raw.round places) = some remainder := by
  obtain ⟨raw, multiplied, _⟩ := @exists_share amount portion 0 (Nat.zero_le _) isPortion
  refine ⟨raw, multiplied, fun places placesLe => ?_⟩
  obtain ⟨_, rawEq, leaves⟩ := @exists_share amount portion places placesLe isPortion
  cases multiplied.symm.trans rawEq
  obtain ⟨remainder, subtracts, _⟩ := leaves.exists_sub? (round_scale_le raw places) placesLe
  exact ⟨remainder, subtracts⟩

namespace Money

variable {money : Money} {portion : Rate}

theorem split_of_not_isPortion (none : ¬portion.IsPortion) :
    money.split portion = reject (.invalidPortion portion) :=
  if_neg none

theorem split_of_unknown (isPortion : portion.IsPortion)
    (unknown : Currency.lookup? money.currency = none) :
    money.split portion = reject (.unknownCurrency money.currency) := by
  obtain ⟨raw, multiplied, _⟩ := money.amount.exists_mul?_and_sub? isPortion
  have refused : Money.precision { money with amount := raw } =
      reject (.unknownCurrency money.currency) := by
    rw [precision, unknown]
  rw [split, if_pos isPortion, multiplied]
  dsimp only
  rw [rounded, refused]
  rfl

theorem exists_split_of_found {currency : Currency} (isPortion : portion.IsPortion)
    (found : Currency.lookup? money.currency = some currency) :
    ∃ split, money.split portion = .ok split := by
  have known := precision_of_found found
  obtain ⟨raw, multiplied, leaves⟩ := money.amount.exists_mul?_and_sub? isPortion
  obtain ⟨remainder, subtracts⟩ := leaves _ (places_le_maxScale known)
  exact ⟨_, split_of_portion isPortion known multiplied subtracts⟩

/-- Splitting money of any kind by any rate is refused exactly for a rate outside zero to one, and for
a currency not known when the rate is in between; otherwise it succeeds.  It never overflows: for
every portion the product and the difference can both be computed. -/
theorem split_answers (money : Money) (portion : Rate) :
    (money.split portion = reject (.invalidPortion portion) ↔
      portion.decimal.units < 0 ∨ 10 ^ Decimal.maxScale < portion.decimal.units) ∧
    (money.split portion = reject (.unknownCurrency money.currency) ↔
      portion.IsPortion ∧ Currency.lookup? money.currency = none) ∧
    ((∃ split, money.split portion = .ok split) ↔
      portion.IsPortion ∧ (Currency.lookup? money.currency).isSome) ∧
    (portion.IsPortion → ∃ raw, money.amount.mul? portion.decimal = some raw ∧
      ∀ places ≤ Decimal.maxScale, ∃ remainder,
        money.amount.sub? (raw.round places) = some remainder) := by
  have outside : portion.decimal.units < 0 ∨ 10 ^ Decimal.maxScale < portion.decimal.units ↔
      ¬portion.IsPortion := by
    rw [Rate.isPortion_iff]
    omega
  rw [outside]
  by_cases isPortion : portion.IsPortion
  · cases found : Currency.lookup? money.currency with
    | none =>
        have answer := split_of_unknown isPortion found
        simp [answer, isPortion, reject, money.amount.exists_mul?_and_sub? isPortion]
    | some currency =>
        obtain ⟨split, answer⟩ := exists_split_of_found isPortion found
        simp [answer, isPortion, reject, money.amount.exists_mul?_and_sub? isPortion]
  · have answer := @split_of_not_isPortion money portion isPortion
    simp [answer, isPortion, reject]

end Money

end LoanBook
