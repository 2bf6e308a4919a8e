import LoanBook.Proofs.Allocation.Conservation
import LoanBook.Proofs.Allocation.Shortfall

/-!
# Offers cover a principal or fall short of it

Offers may be of any size, sign and number of places.  What is used of them when they cover the
principal adds up to it exactly; when they do not, what is missing is the principal less the offers
taken as partial fills, those whose rounded amounts lie within the bounds.
-/

namespace LoanBook

/-- An investment in minor units of a currency, and not below zero. -/
structure UsedInvestment.IsPaid (places : Nat) (currency : String) (used : UsedInvestment) :
    Prop where
  minor : used.investment.IsMinor places
  currency_eq : used.investment.currency = currency
  nonneg : 0 ≤ used.investment.units

namespace AllocationProgress

/-- What is used so far and what is outstanding make up the principal. -/
structure Covers (places : Nat) (currency : String) (principal : Int)
    (progress : AllocationProgress) : Prop where
  minor : progress.remaining.IsMinor places
  currency_eq : progress.remaining.currency = currency
  nonneg : 0 ≤ progress.remaining.units
  paid : ∀ used ∈ progress.used, used.IsPaid places currency
  total : usedUnits progress.used + progress.remaining.units = principal

variable {places : Nat} {currency : String} {principal : Int} {progress : AllocationProgress}

theorem Covers.close (covers : progress.Covers places currency principal)
    (covered : progress.remaining.units = 0) (policy : CoveredOfferPolicy)
    (rest : List LenderOffer) :
    (∀ used ∈ (progress.close policy rest).used, used.IsPaid places currency) ∧
      usedUnits (progress.close policy rest).used = principal := by
  constructor
  · intro used member
    exact covers.paid used (List.mem_reverse.mp member)
  · rw [usedUnits_close, ← covers.total, covered, Int.add_zero]

/-- Using an investment of at most what is outstanding leaves the difference. -/
theorem Covers.use (covers : progress.Covers places currency principal)
    (fits : Decimal.FitsMinor places principal) {used : UsedInvestment} {remaining : Money}
    {unused : List LenderOffer} (paid : used.IsPaid places currency)
    (atMost : used.investment.units ≤ progress.remaining.units)
    (leaves : progress.remaining.minus used.investment = .ok remaining) :
    Covers places currency principal ⟨used :: progress.used, unused, remaining⟩ ∧
      remaining.units = progress.remaining.units - used.investment.units := by
  have usedNonneg := usedUnits_nonneg fun investment member =>
    (covers.paid investment member).nonneg
  have total := covers.total
  obtain ⟨amount, minusEq, short, difference⟩ := Money.exists_minus covers.minor
    (paid.currency_eq.trans covers.currency_eq.symm) paid.minor.scale_le paid.nonneg atMost
    (fits.of_le covers.nonneg (by omega))
  cases leaves.symm.trans minusEq
  have remainingUnits : Money.units { progress.remaining with amount := amount } =
      progress.remaining.units - used.investment.units := difference
  refine ⟨?_, remainingUnits⟩
  exact
    { minor := ⟨covers.minor.precision_eq, short⟩
      currency_eq := covers.currency_eq
      nonneg := by
        rw [remainingUnits]
        omega
      paid := List.forall_mem_cons.mpr ⟨paid, covers.paid⟩
      total := by
        rw [remainingUnits, usedUnits, List.map_cons, List.sum_cons, ← usedUnits]
        omega }

end AllocationProgress

namespace AllocationTerms

variable {terms : AllocationTerms} {bounds : AllocationBounds}

theorem investment_of_use {offer : LenderOffer} {investment : Money} {used : UsedInvestment}
    (uses : terms.use bounds offer investment = .ok used) : used.investment = investment :=
  congrArg LenderOffer.payment (source_of_use uses)

section Covers

variable {places : Nat} {principal : Int}
  (known : ∀ money : Money, money.currency = bounds.currency → money.precision = .ok places)
  (fits : Decimal.FitsMinor places principal)
include known fits

/-- Using an investment of at most what is outstanding leaves the difference. -/
theorem covers_use {progress : AllocationProgress} {offer : LenderOffer}
    {investment remaining : Money} {used : UsedInvestment} {unused : List LenderOffer}
    (covers : progress.Covers places bounds.currency principal)
    (currency : investment.currency = bounds.currency) (short : investment.amount.scale ≤ places)
    (nonneg : 0 ≤ investment.units) (atMost : investment.units ≤ progress.remaining.units)
    (uses : terms.use bounds offer investment = .ok used)
    (leaves : progress.remaining.minus investment = .ok remaining) :
    AllocationProgress.Covers places bounds.currency principal
        ⟨used :: progress.used, unused, remaining⟩ ∧
      remaining.units = progress.remaining.units - investment.units := by
  have same := investment_of_use uses
  rw [← same] at currency short nonneg atMost leaves ⊢
  exact covers.use fits ⟨⟨known _ currency, short⟩, currency, nonneg⟩ atMost leaves

variable (least : 0 ≤ bounds.least.units)
include least

/-- An offer accepted as a partial fill is taken from what is outstanding. -/
theorem covers_part {progress : AllocationProgress} {listed : LenderOffer} {rounded : Rounded}
    {remaining : Money} {used : UsedInvestment} {unused : List LenderOffer}
    (covers : progress.Covers places bounds.currency principal)
    (currency : listed.payment.currency = bounds.currency)
    (rounds : listed.payment.rounded = .ok rounded)
    (short : rounded.value.amount < progress.remaining.amount)
    (accepted : bounds.least ≤ rounded.value.amount ∧ rounded.value.amount ≤ bounds.most)
    (uses : terms.use bounds { listed with payment := rounded.value } rounded.value = .ok used)
    (leaves : progress.remaining.minus rounded.value = .ok remaining) :
    AllocationProgress.Covers places bounds.currency principal
        ⟨used :: progress.used, unused, remaining⟩ ∧
      remaining.units = progress.remaining.units - rounded.value.units := by
  obtain ⟨minor, same⟩ := isMinor_of_listed known currency rounds
  have nonneg : 0 ≤ rounded.value.units := Int.le_trans least (Decimal.le_def.mp accepted.1)
  exact covers_use known fits covers same minor.scale_le nonneg
    (Int.le_of_lt (Decimal.lt_def.mp short)) uses leaves

theorem Fills.covers {progress : AllocationProgress} {offers : List LenderOffer}
    {allocation : Allocation} (filled : Fills overfill terms bounds progress offers allocation)
    (covers : progress.Covers places bounds.currency principal) :
    (∀ used ∈ allocation.used, used.IsPaid places bounds.currency) ∧
      usedUnits allocation.used = principal := by
  induction filled with
  | exact currency rounds meets uses leaves =>
      obtain ⟨minor, same⟩ := isMinor_of_listed known currency rounds
      have met : Money.units _ = Money.units _ := meets
      obtain ⟨next, difference⟩ := covers_use known fits covers same minor.scale_le
        (by rw [met]; exact covers.nonneg) (Int.le_of_eq met) uses leaves
      exact next.close (by rw [difference, met, Int.sub_self]) terms.policy _
  | larger currency rounds exceeds divides leaves uses =>
      obtain ⟨minor, same⟩ := isMinor_of_listed known currency rounds
      obtain ⟨takenMinor, takenCurrency, takenUnits⟩ :=
        taken_of_overfill minor.precision_eq divides
      have taken : Money.units _ = Money.units _ := takenUnits
      obtain ⟨next, difference⟩ := covers_use known fits covers (takenCurrency.trans same)
        takenMinor.scale_le (by rw [taken]; exact covers.nonneg) (Int.le_of_eq taken) uses leaves
      exact next.close (by rw [difference, taken, Int.sub_self]) terms.policy _
  | last currency rounds short accepted uses leaves covered =>
      obtain ⟨next, _⟩ :=
        covers_part known fits least covers currency rounds short accepted uses leaves
      exact next.close (Decimal.isZero_iff.mp covered) terms.policy _
  | part currency rounds short accepted uses leaves uncovered filled ih =>
      exact ih (covers_part known fits least covers currency rounds short accepted uses leaves).1
  | skip currency rounds short refused filled ih =>
      exact ih { covers with }

theorem FallsShort.covers {progress : AllocationProgress} {offers : List LenderOffer}
    {missing : Money} (falls : FallsShort terms bounds progress offers missing)
    (covers : progress.Covers places bounds.currency principal)
    (outstanding : 0 < progress.remaining.units) :
    missing.currency = bounds.currency ∧ 0 < missing.units ∧
      missing.units = progress.remaining.units - partUnits bounds.least bounds.most offers := by
  induction falls with
  | done => exact ⟨covers.currency_eq, outstanding, (Int.sub_zero _).symm⟩
  | part currency rounds short accepted uses leaves later ih =>
      obtain ⟨next, difference⟩ :=
        covers_part known fits least covers currency rounds short accepted uses leaves
      have below : Money.units _ < Money.units _ := Decimal.lt_def.mp short
      obtain ⟨same, positive, missingUnits⟩ := ih next (by rw [difference]; omega)
      refine ⟨same, positive, ?_⟩
      dsimp only at missingUnits
      rw [missingUnits, difference, partUnits_cons_of_accepted rounds accepted]
      omega
  | skip rounds refused later ih =>
      rw [partUnits_cons_of_refused rounds refused]
      exact ih { covers with } outstanding

end Covers

/-- The principal and the bounds on partial fills that an allocation starts with. -/
structure Opens (terms : AllocationTerms) (principal : Money) (rounded : Rounded) (share : Split)
    (bounds : AllocationBounds) : Prop where
  rounds : principal.rounded = .ok rounded
  splits : rounded.value.split terms.minInvestmentRate = .ok share
  currency_eq : bounds.currency = principal.currency
  least_eq : bounds.least = share.taken.amount
  most_eq : bounds.most = share.remainder.amount

section Allocate

variable {loan : LoanId} {principal : Money} {offers : List LenderOffer} {now : Calendar.Instant}

theorem opens_of_opening {start : AllocationBounds × AllocationProgress}
    (opened : terms.opening loan principal now = .ok start) :
    ∃ rounded share, terms.Opens principal rounded share start.1 ∧
      start.2 = ⟨[], [], rounded.value⟩ := by
  obtain ⟨rounded, rounds, opened⟩ := bind_eq_ok_iff.mp opened
  obtain ⟨share, splits, opened⟩ := bind_eq_ok_iff.mp opened
  obtain ⟨due, _, opened⟩ := bind_eq_ok_iff.mp opened
  cases opened
  refine ⟨rounded, share, ⟨rounds, splits, ?_, rfl, rfl⟩, rfl⟩
  obtain ⟨_, _, _, valueEq⟩ := Money.isMinor_of_rounded rounds
  rw [valueEq]

theorem opening_neverUncovered : NeverUncovered (terms.opening loan principal now) :=
  .bind principal.rounded_neverUncovered fun _ => .bind (Money.split_neverUncovered _ _) fun _ =>
    .bind (dueAfter_refuses now _).covered fun _ => .ok _

theorem fills_of_allocate {allocation : Allocation}
    (allocated : terms.allocate loan principal offers now = .ok allocation) :
    ∃ rounded share bounds, terms.Opens principal rounded share bounds ∧
      Fills overfill terms bounds ⟨[], [], rounded.value⟩ offers allocation := by
  rw [allocate_eq_bind_opening] at allocated
  obtain ⟨start, opened, filled⟩ := bind_eq_ok_iff.mp allocated
  obtain ⟨rounded, share, opens, startEq⟩ := opens_of_opening opened
  rw [startEq] at filled
  exact ⟨rounded, share, start.1, opens, fills_of_fillBy filled⟩

theorem fallsShort_of_allocate {missing : Money}
    (failed : terms.allocate loan principal offers now =
      .error (.rejected (.coverage missing))) :
    ∃ rounded share bounds, terms.Opens principal rounded share bounds ∧
      FallsShort terms bounds ⟨[], [], rounded.value⟩ offers missing := by
  rw [allocate_eq_bind_opening] at failed
  obtain ⟨start, opened, falls⟩ := exists_of_bind_uncovered opening_neverUncovered failed
  obtain ⟨rounded, share, opens, startEq⟩ := opens_of_opening opened
  rw [startEq] at falls
  exact ⟨rounded, share, start.1, opens, fallsShort_of_fillBy falls⟩

variable {places : Nat} {rounded : Rounded} {share : Split}

theorem Opens.known (opens : terms.Opens principal rounded share bounds)
    (known : principal.precision = .ok places) (money : Money)
    (same : money.currency = bounds.currency) : money.precision = .ok places :=
  (Money.precision_congr (same.trans opens.currency_eq)).trans known

theorem Opens.covers (opens : terms.Opens principal rounded share bounds)
    (known : principal.precision = .ok places) (positive : 0 < rounded.value.units) :
    AllocationProgress.Covers places bounds.currency rounded.value.units
      ⟨[], [], rounded.value⟩ := by
  obtain ⟨own, minor, ownKnown, valueEq⟩ := Money.isMinor_of_rounded opens.rounds
  cases ownKnown.symm.trans known
  exact
    { minor
      currency_eq := by rw [valueEq, opens.currency_eq]
      nonneg := Int.le_of_lt positive
      paid := by simp
      total := by simp [usedUnits] }

/-- The smallest partial fill is a share of the principal, so it is not below zero. -/
theorem Opens.least_nonneg (opens : terms.Opens principal rounded share bounds)
    (positive : 0 < rounded.value.units)
    (fits : Decimal.FitsMinor places rounded.value.units)
    (known : principal.precision = .ok places) : 0 ≤ bounds.least.units := by
  have minor := (opens.covers known positive).minor
  obtain ⟨isPortion, _⟩ := Money.taken_of_split minor.precision_eq opens.splits
  obtain ⟨split, splits, isSplit, _⟩ :=
    Money.exists_split minor (Int.le_of_lt positive) fits isPortion
  cases opens.splits.symm.trans splits
  rw [opens.least_eq]
  exact isSplit.taken_nonneg

end Allocate

end AllocationTerms

/-- Investments that make up an amount which fits are summed to it. -/
theorem Allocation.usedTotal_eq {allocation : Allocation} {places : Nat} {currency : String}
    {principal : Decimal} (placesLe : places ≤ Decimal.maxScale)
    (paid : ∀ used ∈ allocation.used, used.IsPaid places currency)
    (total : usedUnits allocation.used = principal.units)
    (fits : Decimal.FitsMinor places principal.units) (time : Calendar.Instant) :
    ∃ amount, allocation.usedTotal currency time = .ok { Money.zero currency time with amount } ∧
      amount ≈ principal := by
  have sumEq : (allocation.used.map UsedInvestment.investment).map Money.units =
      allocation.used.map fun used => used.investment.units := List.map_map ..
  have each : ∀ operand ∈ allocation.used.map UsedInvestment.investment,
      operand.currency = currency ∧ operand.amount.scale ≤ places ∧ 0 ≤ operand.units := by
    intro operand member
    obtain ⟨used, usedMem, rfl⟩ := List.mem_map.mp member
    have isPaid := paid used usedMem
    exact ⟨isPaid.currency_eq, isPaid.minor.scale_le, isPaid.nonneg⟩
  obtain ⟨amount, summed, _, amountUnits⟩ := @Money.exists_foldlM_addTo places currency
    (allocation.used.map UsedInvestment.investment) Decimal.zero placesLe (Nat.zero_le _)
    (Int.le_of_eq Decimal.units_zero.symm) each
    (by rwa [sumEq, Decimal.units_zero, Int.zero_add, ← usedUnits, total])
  refine ⟨amount, ?_, ?_⟩
  · show (List.foldlM (Money.addTo currency) Decimal.zero _ >>= _) = _
    rw [summed]
    rfl
  · rw [Decimal.equiv_def, amountUnits, sumEq, Decimal.units_zero, Int.zero_add, ← usedUnits,
      total]

namespace AllocationTerms

/-- Offers either cover the principal, and what is used of them adds up to it, or leave missing what
the partial fills among them do not make up. -/
theorem allocate_covers {terms : AllocationTerms} {principal : Money} {rounded : Rounded}
    {places : Nat} (rounds : principal.rounded = .ok rounded)
    (known : principal.precision = .ok places) (positive : 0 < rounded.value.units)
    (fits : Decimal.FitsMinor places rounded.value.units) (loan : LoanId)
    (offers : List LenderOffer) (now : Calendar.Instant) :
    (∀ allocation, terms.allocate loan principal offers now = .ok allocation →
      usedUnits allocation.used = rounded.value.units ∧
        ∀ time, ∃ amount, allocation.usedTotal principal.currency time =
          .ok { Money.zero principal.currency time with amount } ∧
            amount ≈ rounded.value.amount) ∧
      ∀ missing, terms.allocate loan principal offers now =
          .error (.rejected (.coverage missing)) →
        missing.currency = principal.currency ∧ 0 < missing.units ∧
          missing.units ≤ rounded.value.units ∧
          ∃ share, rounded.value.split terms.minInvestmentRate = .ok share ∧
            missing.units = rounded.value.units -
              partUnits share.taken.amount share.remainder.amount offers := by
  constructor
  · intro allocation allocated
    obtain ⟨_, share, bounds, opens, filled⟩ := fills_of_allocate allocated
    cases rounds.symm.trans opens.rounds
    obtain ⟨paid, total⟩ := filled.covers (opens.known known) fits
      (opens.least_nonneg positive fits known) (opens.covers known positive)
    refine ⟨total, ?_⟩
    rw [← opens.currency_eq]
    exact Allocation.usedTotal_eq (Money.places_le_maxScale known) paid total fits
  · intro missing failed
    obtain ⟨_, share, bounds, opens, falls⟩ := fallsShort_of_allocate failed
    cases rounds.symm.trans opens.rounds
    have least := opens.least_nonneg positive fits known
    obtain ⟨same, missingPositive, missingUnits⟩ := falls.covers (opens.known known) fits least
      (opens.covers known positive) positive
    have parts := @partUnits_nonneg bounds.least bounds.most least offers
    dsimp only at missingUnits
    refine ⟨same.trans opens.currency_eq, missingPositive, by omega, share, opens.splits, ?_⟩
    rw [← opens.least_eq, ← opens.most_eq, missingUnits]

/-- A hundred dollars and half a cent. -/
def credit : Money :=
  { Money.dollars (.ofDigits false 100005 3) with
    time := (Calendar.Instant.ofUnixSeconds? 1706659200).getD .epoch }

/-- An offer of a little over forty dollars, and one of a debt. -/
def smallOffers : List LenderOffer :=
  [⟨⟨"first"⟩, none, { credit with amount := .ofDigits false 40004 3 }⟩,
    ⟨⟨"second"⟩, none, { credit with amount := .ofDigits true 25 0 }⟩]

/-- An offer of eighty dollars. -/
def largeOffer : LenderOffer :=
  ⟨⟨"third"⟩, none, { credit with amount := .ofDigits false 800000 4 }⟩

theorem allocate_covers_credit :
    let terms := AllocationTerms.ofConfig .standard
    ∃ rounded, credit.rounded = .ok rounded ∧ credit.precision = .ok 2 ∧
      0 < rounded.value.units ∧ Decimal.FitsMinor 2 rounded.value.units ∧
      (∃ allocation,
        terms.allocate (.ofClock 0 1) credit (smallOffers ++ [largeOffer]) credit.time =
          .ok allocation ∧
        usedUnits allocation.used = rounded.value.units ∧
        ∃ amount, allocation.usedTotal credit.currency credit.time =
          .ok { Money.zero credit.currency credit.time with amount } ∧
            amount ≈ rounded.value.amount) ∧
      ∃ missing share,
        terms.allocate (.ofClock 0 1) credit smallOffers credit.time =
          .error (.rejected (.coverage missing)) ∧
        missing.currency = credit.currency ∧ 0 < missing.units ∧
        rounded.value.split terms.minInvestmentRate = .ok share ∧
        missing.units = rounded.value.units -
          partUnits share.taken.amount share.remainder.amount smallOffers := by
  intro terms
  have known : credit.precision = .ok 2 := by decide +kernel
  have rounds := Money.rounded_eq_ok_iff.mpr ⟨2, known, rfl⟩
  have positive : 0 < (credit.amount.round 2).units := by decide +kernel
  have fits : Decimal.FitsMinor 2 (credit.amount.round 2).units := by
    unfold Decimal.FitsMinor
    decide +kernel
  refine ⟨_, rounds, known, positive, fits, ?_, ?_⟩
  · have covered : (terms.allocate (.ofClock 0 1) credit (smallOffers ++ [largeOffer])
        credit.time).isOk = true := by decide +kernel
    cases allocated : terms.allocate (.ofClock 0 1) credit (smallOffers ++ [largeOffer])
        credit.time with
    | error failure =>
        rw [allocated] at covered
        cases covered
    | ok allocation =>
        obtain ⟨total, summed⟩ :=
          (allocate_covers rounds known positive fits _ _ _).1 allocation allocated
        exact ⟨allocation, rfl, total, summed credit.time⟩
  · have missed : terms.allocate (.ofClock 0 1) credit smallOffers credit.time =
        .error (.rejected (.coverage
          { credit with amount := .ofDigits false 6001 2 })) := by
      decide +kernel
    obtain ⟨same, missing, _, share, splits, units⟩ :=
      (allocate_covers rounds known positive fits _ _ _).2 _ missed
    exact ⟨_, share, missed, same, missing, splits, units⟩

end AllocationTerms

end LoanBook
