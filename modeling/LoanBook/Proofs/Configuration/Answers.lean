import LoanBook.Proofs.Decimal.Overflow
import LoanBook.Proofs.Wire.Configurations

/-!
# What the check of a configuration answers

The check accepts a configuration or refuses it with its fault, unless the fault is a rate that has
no percentage: a hundred times the rate outgrows a decimal, and the check fails before it has the
words for its refusal.  Reading a configuration from a text answers in the same way.
-/

namespace LoanBook

namespace Rate

/-- A hundred times the rate is no less than half a unit below `2 ^ 96`. -/
def OutgrowsPercentage (rate : Rate) : Prop :=
  2 * (Decimal.mantissaBound * 10 ^ Decimal.maxScale) ≤
    200 * rate.decimal.units.natAbs + 10 ^ Decimal.maxScale

instance (rate : Rate) : Decidable rate.OutgrowsPercentage :=
  inferInstanceAs (Decidable (_ ≤ _))

theorem display?_eq_none_iff {rate : Rate} : rate.display? = none ↔ rate.OutgrowsPercentage := by
  have hundred : Decimal.hundred.magnitude = 100 * 10 ^ Decimal.maxScale := rfl
  rw [display?, Option.map_eq_none_iff, percentage?, Decimal.mul?_eq_none_iff, hundred,
    OutgrowsPercentage, Decimal.natAbs_units]
  simp only [Decimal.maxScale, Decimal.mantissaBound]
  omega

/-- Every portion can be shown. -/
theorem IsPortion.not_outgrowsPercentage {rate : Rate} (portion : rate.IsPortion) :
    ¬ rate.OutgrowsPercentage := by
  obtain ⟨nonneg, atMost⟩ := portion
  rw [Decimal.le_def, Decimal.units_zero] at nonneg
  rw [Decimal.le_def, Decimal.units_one] at atMost
  simp only [OutgrowsPercentage, Decimal.mantissaBound, Decimal.maxScale] at atMost ⊢
  omega

end Rate

namespace LoanConfig

/-- A configuration with four portions, at least one installment, and a smallest offer of at most
half the principal. -/
structure IsValid (config : LoanConfig) : Prop where
  interestRate : config.pricing.interestRate.IsPortion
  serviceFeeRate : config.pricing.serviceFeeRate.IsPortion
  lenderInterestRate : config.pricing.lenderInterestRate.IsPortion
  minInvestmentRate : config.investment.minInvestmentRate.IsPortion
  installmentCount : 1 ≤ config.installmentCount.toNat
  minInvestmentRate_le_half : config.investment.minInvestmentRate.decimal ≤ Decimal.half

/-- The first rate that is no portion, with its name. -/
def firstOutside? (config : LoanConfig) : Option (String × Rate) :=
  config.rates.find? fun entry => ¬ entry.2.IsPortion

/-- The first rate that is no portion has no percentage. -/
def IsUnshowable (config : LoanConfig) : Prop :=
  ∃ entry, config.firstOutside? = some entry ∧ entry.2.OutgrowsPercentage

theorem firstOutside?_eq_none_iff {config : LoanConfig} :
    config.firstOutside? = none ↔ ∀ entry ∈ config.rates, entry.2.IsPortion := by
  simp [firstOutside?]

theorem check_eq_ok_iff_isValid {config : LoanConfig} :
    config.check = .ok () ↔ config.IsValid := by
  rw [check_eq_ok_iff]
  simp only [rates, List.forall_mem_cons, Decimal.lt_def, Int.not_lt]
  constructor
  · rintro ⟨⟨interest, serviceFee, lenderInterest, minimum, _⟩, count, atMost⟩
    have positive : 1 ≤ config.installmentCount.toNat :=
      Nat.pos_of_ne_zero fun none => count (UInt32.toNat_inj.mp none)
    exact ⟨interest, serviceFee, lenderInterest, minimum, positive, atMost⟩
  · intro valid
    refine ⟨⟨valid.interestRate, valid.serviceFeeRate, valid.lenderInterestRate,
      valid.minInvestmentRate, by simp⟩, ?_, valid.minInvestmentRate_le_half⟩
    intro none
    have count := valid.installmentCount
    rw [none] at count
    exact absurd count (by decide)

/-- Rates are checked in turn, up to the first that is no portion. -/
theorem forM_checkRate (entries : List (String × Rate)) :
    entries.forM checkRate =
      match entries.find? fun entry => ¬ entry.2.IsPortion with
      | some entry => checkRate entry
      | none => .ok () := by
  induction entries with
  | nil => rfl
  | cons entry entries ih =>
      simp only [List.forM_eq_forM] at ih ⊢
      rw [List.forM_cons, List.find?_cons]
      by_cases portion : entry.2.IsPortion
      · simpa [checkRate_eq_ok_iff.mpr portion, portion] using ih
      · simp only [portion, not_false_eq_true, decide_true]
        cases checked : checkRate entry with
        | error failure => rfl
        | ok passed => exact absurd (checkRate_eq_ok_iff.mp checked) portion

/-- A rate that is no portion is refused when it can be shown, and overflows otherwise. -/
theorem checkRate_of_outside {entry : String × Rate} (outside : ¬ entry.2.IsPortion) :
    checkRate entry = .error .overflow ∧ entry.2.OutgrowsPercentage ∨
      (∃ fault, checkRate entry = reject (.invalidConfiguration fault)) ∧
        ¬ entry.2.OutgrowsPercentage := by
  rw [← Rate.display?_eq_none_iff, checkRate, if_neg outside]
  cases entry.2.display? with
  | none => exact Or.inl ⟨rfl, rfl⟩
  | some shown => exact Or.inr ⟨⟨_, rfl⟩, by simp⟩

/-- The three answers of the check, each with the configurations that it is given to. -/
theorem check_cases (config : LoanConfig) :
    config.check = .ok () ∧ config.IsValid ∧ ¬ config.IsUnshowable ∨
      config.check = .error .overflow ∧ ¬ config.IsValid ∧ config.IsUnshowable ∨
      (∃ fault, config.check = reject (.invalidConfiguration fault)) ∧
        ¬ config.IsValid ∧ ¬ config.IsUnshowable := by
  rw [← check_eq_ok_iff_isValid, check, forM_checkRate, ← firstOutside?]
  cases first : config.firstOutside? with
  | some entry =>
      have outside : ¬ entry.2.IsPortion := by simpa using List.find?_some first
      have unshowable : config.IsUnshowable ↔ entry.2.OutgrowsPercentage := by
        simp [IsUnshowable, first]
      rw [unshowable]
      rcases checkRate_of_outside outside with ⟨overflows, outgrows⟩ | ⟨⟨fault, refuses⟩, shown⟩
      · simp [overflows, outgrows, bind, Except.bind]
      · simp [refuses, shown, reject, bind, Except.bind]
  | none =>
      have showable : ¬ config.IsUnshowable := by simp [IsUnshowable, first]
      have minimum : config.investment.minInvestmentRate.IsPortion :=
        firstOutside?_eq_none_iff.mp first ("min_investment_rate", _) (by simp [rates])
      simp only [ok_bind, showable]
      split
      · simp [reject]
      · split
        · -- a minimum above half is a portion here, so there are words for it
          cases shown : config.investment.minInvestmentRate.display? with
          | none => exact absurd (Rate.display?_eq_none_iff.mp shown) minimum.not_outgrowsPercentage
          | some words => simp [granted, reject, bind, Except.bind]
        · simp

theorem check_eq_overflow_iff {config : LoanConfig} :
    config.check = .error .overflow ↔ config.IsUnshowable := by
  rcases config.check_cases with ⟨answer, _⟩ | ⟨answer, _⟩ | ⟨⟨fault, answer⟩, _⟩ <;>
    simp [*, reject]

theorem check_eq_reject_iff {config : LoanConfig} :
    (∃ fault, config.check = reject (.invalidConfiguration fault)) ↔
      ¬ config.IsValid ∧ ¬ config.IsUnshowable := by
  rcases config.check_cases with ⟨answer, _⟩ | ⟨answer, _⟩ | ⟨⟨fault, answer⟩, _⟩ <;>
    simp [*, reject]

section Text

variable {text : String}

/-- The configuration that a text is read as, before it is checked. -/
def read? (text : String) : Option LoanConfig := (Json.read? text).bind ofJson?

theorem ofText_of_read? {config : LoanConfig} (found : read? text = some config) :
    ofText text = config.check.map fun _ => config := by
  rw [ofText, ← read?, found]
  rfl

theorem ofText_of_unread (unread : read? text = none) :
    ofText text = reject (.invalidConfiguration .unreadable) := by
  rw [ofText, ← read?, unread]

theorem ofText_eq_ok_iff {config : LoanConfig} :
    ofText text = .ok config ↔ read? text = some config ∧ config.check = .ok () := by
  cases found : read? text with
  | none => simp [ofText_of_unread found, reject]
  | some other =>
      rw [ofText_of_read? found, map_eq_ok_iff]
      constructor
      · rintro ⟨_, passes, same⟩
        cases same
        exact ⟨rfl, passes⟩
      · rintro ⟨same, passes⟩
        cases same
        exact ⟨(), passes, rfl⟩

theorem ofText_eq_error_iff {failure : Failure}
    (other : failure ≠ .rejected (.invalidConfiguration .unreadable)) :
    ofText text = .error failure ↔
      ∃ config, read? text = some config ∧ config.check = .error failure := by
  cases found : read? text with
  | none => simp [ofText_of_unread found, reject, other.symm]
  | some config =>
      rw [ofText_of_read? found]
      cases checked : config.check <;> simp [Except.map, checked]

theorem ofText_eq_reject_iff :
    (∃ fault, ofText text = reject (.invalidConfiguration fault)) ↔
      ∀ config, read? text = some config →
        ∃ fault, config.check = reject (.invalidConfiguration fault) := by
  cases found : read? text with
  | none => exact iff_of_true ⟨_, ofText_of_unread found⟩ (by simp)
  | some config =>
      rw [ofText_of_read? found]
      cases checked : config.check <;> simp [Except.map, checked, reject]

end Text

/-- A configuration is accepted when it is valid and refused for its fault when it is not, but the
check overflows when the first rate that is no portion has no percentage.  A text gives the
configuration that it is read as, and nothing but a valid one. -/
theorem answers_unless_unshowable (config : LoanConfig) (text : String) :
    (config.check = .ok () ↔ config.IsValid) ∧
      (config.check = .error .overflow ↔ config.IsUnshowable) ∧
      ((∃ fault, config.check = reject (.invalidConfiguration fault)) ↔
        ¬ config.IsValid ∧ ¬ config.IsUnshowable) ∧
      (∀ found, ofText text = .ok found ↔ read? text = some found ∧ found.IsValid) ∧
      (ofText text = .error .overflow ↔ ∃ found, read? text = some found ∧ found.IsUnshowable) ∧
      ((∃ fault, ofText text = reject (.invalidConfiguration fault)) ↔
        ∀ found, read? text = some found → ¬ found.IsValid ∧ ¬ found.IsUnshowable) := by
  refine ⟨check_eq_ok_iff_isValid, check_eq_overflow_iff, check_eq_reject_iff, ?_, ?_, ?_⟩
  · intro found
    rw [ofText_eq_ok_iff, check_eq_ok_iff_isValid]
  · rw [ofText_eq_error_iff (by simp)]
    simp only [check_eq_overflow_iff]
  · rw [ofText_eq_reject_iff]
    simp only [check_eq_reject_iff]

/-- The standard product with an interest of `792281625142643375935439504`, a hundred times which
is just above the largest decimal. -/
def unboundedInterest : LoanConfig :=
  { standard with
    pricing.interestRate :=
      ⟨⟨false, 792281625142643375935439504, 0, by decide, Nat.zero_le _⟩⟩ }

theorem unboundedInterest_overflows :
    unboundedInterest.check = .error .overflow ∧
      ofText unboundedInterest.toText = .error .overflow := by
  have checked : unboundedInterest.check = .error .overflow := by decide +kernel
  have found : read? unboundedInterest.toText = some unboundedInterest := by
    rw [read?, toText, Json.read?_compact (isWellFormed_toJson _), Option.bind_some]
    decide +kernel
  refine ⟨checked, ?_⟩
  rw [ofText_of_read? found, checked]
  rfl

end LoanConfig

end LoanBook
