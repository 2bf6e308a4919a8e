import LoanBook.Proofs.Allocation.Coverage
import LoanBook.Proofs.Allocation.Steps

/-!
# The offer that closes an allocation

An allocation that succeeds is closed by one of its offers.  Each offer before that one is used as a
whole, if it lies within the bounds, or else comes back as a whole; the closing offer is used up to
what is outstanding, and its excess comes back.  The offers after it decide nothing: whatever they
are, the policy alone says whether they come back, too.
-/

namespace LoanBook

namespace LenderOffer

/-- An offer of an amount between two bounds. -/
def LiesWithin (least most : Decimal) (offer : LenderOffer) : Prop :=
  least ≤ offer.payment.amount ∧ offer.payment.amount ≤ most

instance (least most : Decimal) : DecidablePred (LiesWithin least most) := fun offer =>
  inferInstanceAs (Decidable (least ≤ offer.payment.amount ∧ offer.payment.amount ≤ most))

/-- An offer whose rounded amount is below `2 ^ 96` minor units of its currency. -/
def HasRoom (offer : LenderOffer) : Prop :=
  ∀ places, offer.payment.precision = .ok places →
    offer.payment.snapped.units <
      (Decimal.mantissaBound * 10 ^ (Decimal.maxScale - places) : Nat)

end LenderOffer

/-- Money, in two parts: what is used of it, and what exceeds that, if anything. -/
structure Money.IsUsed (whole taken : Money) (excess : Option Money) : Prop where
  taken_eq : taken = { whole with amount := taken.amount }
  excess_eq : ∀ left ∈ excess, left = { whole with amount := left.amount } ∧ 0 < left.units
  total : taken.units + (excess.map Money.units).getD 0 = whole.units

theorem Money.isUsed_whole (whole : Money) : whole.IsUsed whole none where
  taken_eq := rfl
  excess_eq := by simp
  total := Int.add_zero _

/-- An allocation of some offers and of the one that closes it, all of them rounded.  Each offer
before that one is used as a whole, if it lies within the bounds, and comes back as a whole if not;
the closing offer is used in one part and comes back in the other, if there is another.  No other
offer is used or comes back, and both keep the order of the offers. -/
structure Allocation.IsClosedBy (allocation : Allocation) (least most : Decimal)
    (before : List LenderOffer) (closing : LenderOffer) (taken : Money) (excess : Option Money) :
    Prop where
  rounds : ∀ offer ∈ before ++ [closing], ∃ rounded, offer.payment.rounded = .ok rounded
  used_eq : allocation.used.map UsedInvestment.source =
    (before.map LenderOffer.snapped).filter (LenderOffer.LiesWithin least most) ++
      [{ closing with payment := taken }]
  unused_eq : allocation.unused =
    (before.map LenderOffer.snapped).filter (¬ LenderOffer.LiesWithin least most ·) ++
      (excess.map fun left => { closing with payment := left }).toList
  parts : closing.payment.snapped.IsUsed taken excess

namespace AllocationProgress

/-- What is used so far of each offer, in order. -/
def usedOffers (progress : AllocationProgress) : List LenderOffer :=
  progress.used.reverse.map UsedInvestment.source

/-- What is not used so far, in order. -/
def unusedOffers (progress : AllocationProgress) : List LenderOffer :=
  progress.unused.reverse

/-- The allocation when what comes after the closing offer is dropped. -/
theorem close_drop (progress : AllocationProgress) (rest : List LenderOffer) :
    progress.close .drop rest = ⟨progress.used.reverse, progress.unusedOffers⟩ := by
  simp only [close, unusedOffers, List.append_nil]

/-- The allocation when what comes after the closing offer comes back. -/
theorem close_markUnused (progress : AllocationProgress) (rest : List LenderOffer) :
    progress.close .markUnused rest = ⟨progress.used.reverse, progress.unusedOffers ++ rest⟩ :=
  rfl

end AllocationProgress

namespace AllocationTerms

variable {terms : AllocationTerms} {bounds : AllocationBounds} {places : Nat}
  {progress : AllocationProgress}

/-- An offer that exceeds what is outstanding is used up to that, and its excess is above zero. -/
theorem isUsed_of_overfill {offer : LenderOffer} {outstanding : Decimal} {split : Split}
    (minor : offer.payment.IsMinor places)
    (room : offer.payment.units < (Decimal.mantissaBound * 10 ^ (Decimal.maxScale - places) : Nat))
    (positive : 0 < outstanding.units) (exceeds : outstanding < offer.payment.amount)
    (divides : overfill offer outstanding = .ok split) :
    offer.payment.IsUsed split.taken (some split.remainder) := by
  obtain ⟨portion, splits, meets⟩ := exists_split_of_overfill divides
  have less : outstanding.units < offer.payment.units := Decimal.lt_def.mp exceeds
  have fits : Decimal.FitsMinor places offer.payment.units := by
    unfold Decimal.FitsMinor
    omega
  obtain ⟨isPortion, _⟩ := Money.taken_of_split minor.precision_eq splits
  obtain ⟨_, sameSplits, isSplit, _⟩ := Money.exists_split minor (by omega) fits isPortion
  cases splits.symm.trans sameSplits
  have takenUnits : split.taken.units = outstanding.units := Decimal.equiv_def.mp meets
  have remainderUnits := isSplit.remainder_units
  exact
    { taken_eq := isSplit.taken_eq
      excess_eq := by
        intro left same
        cases same
        exact ⟨isSplit.remainder_eq, by omega⟩
      total := by
        simp only [Option.map_some, Option.getD_some]
        omega }

theorem Passes.rounds {before : List LenderOffer} {final : AllocationProgress}
    (passes : Passes overfill terms bounds progress before final) :
    ∀ offer ∈ before, ∃ rounded, offer.payment.rounded = .ok rounded := by
  induction passes with
  | refl => simp
  | cons steps passes ih =>
      obtain ⟨_, rounded, rounds, _⟩ := considers_of_step steps
      exact List.forall_mem_cons.mpr ⟨⟨rounded, rounds⟩, ih⟩

section Steps

variable (known : ∀ money : Money, money.currency = bounds.currency → money.precision = .ok places)
include known

/-- An offer that leaves an allocation open is used or comes back as a whole. -/
theorem passes_step {listed : LenderOffer} {next : AllocationStep} (isOpen : progress.IsOpen places)
    (steps : terms.step overfill bounds progress listed = .ok next)
    (uncovered : next.covered = false) :
    next.progress.usedOffers = progress.usedOffers ++
        [listed.snapped].filter (LenderOffer.LiesWithin bounds.least bounds.most) ∧
      next.progress.unusedOffers = progress.unusedOffers ++
        [listed.snapped].filter (¬ LenderOffer.LiesWithin bounds.least bounds.most ·) ∧
      next.progress.IsOpen places := by
  have nextOpen := isOpen_of_step known isOpen steps uncovered
  obtain ⟨currency, rounded, rounds, considers⟩ := considers_of_step steps
  rw [LenderOffer.snapped_of_rounded rounds]
  cases considers with
  | exact meets uses leaves => cases uncovered
  | larger exceeds divides leaves uses => cases uncovered
  | part short accepted uses leaves =>
      have inside : LenderOffer.LiesWithin bounds.least bounds.most
          { listed with payment := rounded.value } := accepted
      refine ⟨?_, ?_, nextOpen⟩
      · simp [AllocationProgress.usedOffers, source_of_use uses, inside]
      · simp [AllocationProgress.unusedOffers, inside]
  | skip short refused =>
      have outside : ¬ LenderOffer.LiesWithin bounds.least bounds.most
          { listed with payment := rounded.value } := refused
      refine ⟨?_, ?_, nextOpen⟩
      · simp [AllocationProgress.usedOffers, outside]
      · simp [AllocationProgress.unusedOffers, outside]

theorem Passes.fills {before : List LenderOffer} {final : AllocationProgress}
    (passes : Passes overfill terms bounds progress before final) (isOpen : progress.IsOpen places) :
    final.usedOffers = progress.usedOffers ++ (before.map LenderOffer.snapped).filter
        (LenderOffer.LiesWithin bounds.least bounds.most) ∧
      final.unusedOffers = progress.unusedOffers ++ (before.map LenderOffer.snapped).filter
        (¬ LenderOffer.LiesWithin bounds.least bounds.most ·) ∧
      final.IsOpen places := by
  induction passes with
  | refl progress => exact ⟨by simp, by simp, isOpen⟩
  | @cons progress final listed before next steps passes ih =>
      obtain ⟨used, unused, nextOpen⟩ := passes_step known isOpen steps rfl
      obtain ⟨usedLater, unusedLater, finalOpen⟩ := ih nextOpen
      refine ⟨?_, ?_, finalOpen⟩
      · rw [usedLater, used, List.append_assoc, ← List.filter_append]
        rfl
      · rw [unusedLater, unused, List.append_assoc, ← List.filter_append]
        rfl

/-- The offer that closes an allocation is used as a whole, or up to what is outstanding. -/
theorem closes_step {closing : LenderOffer} {next : AllocationStep} (isOpen : progress.IsOpen places)
    (room : closing.HasRoom)
    (steps : terms.step overfill bounds progress closing = .ok next) (covered : next.covered = true) :
    ∃ taken excess,
      next.progress.usedOffers = progress.usedOffers ++ [{ closing with payment := taken }] ∧
      next.progress.unusedOffers = progress.unusedOffers ++
        (excess.map fun left => { closing with payment := left : LenderOffer }).toList ∧
      closing.payment.snapped.IsUsed taken excess := by
  obtain ⟨currency, rounded, rounds, considers⟩ := considers_of_step steps
  obtain ⟨minor, _⟩ := isMinor_of_listed known currency rounds
  have offered := Money.snapped_of_rounded rounds
  rw [offered]
  cases considers with
  | exact meets uses leaves =>
      refine ⟨rounded.value, none, ?_, ?_, Money.isUsed_whole _⟩
      · simp [AllocationProgress.usedOffers, source_of_use uses]
      · simp [AllocationProgress.unusedOffers]
  | @larger split used remaining exceeds divides leaves uses =>
      have small := room places (known _ currency)
      rw [offered] at small
      refine ⟨split.taken, some split.remainder, ?_, ?_,
        isUsed_of_overfill minor small isOpen.positive exceeds divides⟩
      · simp [AllocationProgress.usedOffers, source_of_use uses]
      · simp [AllocationProgress.unusedOffers]
  | part short accepted uses leaves =>
      refine ⟨rounded.value, none, ?_, ?_, Money.isUsed_whole _⟩
      · simp [AllocationProgress.usedOffers, source_of_use uses]
      · simp [AllocationProgress.unusedOffers]
  | skip short refused => cases covered

end Steps

section Allocate

variable {principal : Money} {rounded : Rounded} {offers : List LenderOffer}

/-- Offers fail to cover a principal whatever is done with those that come after it is covered, or
one of them closes the allocation.  Then the offers before it are used or come back as a whole and
in order, it is used itself up to what is outstanding, and that is the allocation whatever comes
after it, when the later offers are dropped; when they are not, they come back as they are, after
all the others. -/
theorem allocate_closes_or_fails (rounds : principal.rounded = .ok rounded)
    (positive : 0 < rounded.value.units) (room : ∀ offer ∈ offers, offer.HasRoom) (loan : LoanId)
    (now : Calendar.Instant) :
    (∃ failure, ∀ policy,
      allocate { terms with policy } loan principal offers now = .error failure) ∨
    ∃ share before closing after taken excess allocation,
      rounded.value.split terms.minInvestmentRate = .ok share ∧
      offers = before ++ closing :: after ∧
      Allocation.IsClosedBy allocation share.taken.amount share.remainder.amount before closing
        taken excess ∧
      ∀ later,
        allocate { terms with policy := .drop } loan principal (before ++ closing :: later) now =
          .ok allocation ∧
        allocate { terms with policy := .markUnused } loan principal (before ++ closing :: later)
          now = .ok ⟨allocation.used, allocation.unused ++ later⟩ := by
  simp only [allocate_eq_map_settlement, settlement_withPolicy]
  cases settles : terms.settlement loan principal offers now with
  | error failure => exact Or.inl ⟨failure, fun policy => rfl⟩
  | ok settled =>
      right
      obtain ⟨last, after⟩ := settled
      obtain ⟨start, opened, settles⟩ := bind_eq_ok_iff.mp settles
      obtain ⟨_, share, opens, startEq⟩ := opens_of_opening opened
      cases rounds.symm.trans opens.rounds
      obtain ⟨before, closing, final, rfl, passes, closes⟩ := settle_eq_ok_iff.mp settles
      obtain ⟨places, minor, principalKnown, _⟩ := Money.isMinor_of_rounded rounds
      have known := opens.known principalKnown
      have isOpen : start.2.IsOpen places := by
        rw [startEq]
        exact ⟨minor, positive⟩
      obtain ⟨used, unused, finalOpen⟩ := passes.fills known isOpen
      obtain ⟨taken, excess, usedLast, unusedLast, parts⟩ :=
        closes_step known finalOpen (room closing (by simp)) closes rfl
      obtain ⟨_, closingRounded, closingRounds, _⟩ := considers_of_step closes
      rw [opens.least_eq, opens.most_eq, startEq] at used unused
      refine ⟨share, before, closing, after, taken, excess, ⟨last.used.reverse, last.unusedOffers⟩,
        opens.splits, rfl,
        { rounds := List.forall_mem_append.mpr
            ⟨passes.rounds, List.forall_mem_singleton.mpr ⟨closingRounded, closingRounds⟩⟩
          used_eq := usedLast.trans (congrArg (· ++ _) used)
          unused_eq := unusedLast.trans (congrArg (· ++ _) unused)
          parts }, ?_⟩
      intro later
      -- the same steps lead to the closing offer, whatever is listed after it
      have settlesLater := @settle_eq_ok_iff _ _ _ _ _ (before ++ closing :: later) _ |>.mpr
        ⟨before, closing, final, rfl, passes, closes⟩
      rw [settlement, opened, ok_bind, settlesLater]
      exact ⟨congrArg Except.ok (last.close_drop later),
        congrArg Except.ok (last.close_markUnused later)⟩

end Allocate

/-- Rupiah, which no offer for dollars may come in. -/
def rupiahOffer : LenderOffer :=
  ⟨⟨"fourth"⟩, some "contract", { credit with currency := "IDR" }⟩

/-- A credit that forty dollars, a debt and eighty dollars cover, before the rupiah are reached. -/
theorem allocate_closes_or_fails_credit :
    let terms := AllocationTerms.ofConfig .standard
    let offers := smallOffers ++ [largeOffer, rupiahOffer]
    ∃ rounded share before closing after taken excess allocation,
      credit.rounded = .ok rounded ∧ 0 < rounded.value.units ∧
      (∀ offer ∈ offers, offer.HasRoom) ∧
      rounded.value.split terms.minInvestmentRate = .ok share ∧
      offers = before ++ closing :: after ∧
      Allocation.IsClosedBy allocation share.taken.amount share.remainder.amount before closing
        taken excess ∧
      ∀ later,
        allocate { terms with policy := .drop } (.ofClock 0 1) credit (before ++ closing :: later)
          credit.time = .ok allocation ∧
        allocate { terms with policy := .markUnused } (.ofClock 0 1) credit
          (before ++ closing :: later) credit.time =
            .ok ⟨allocation.used, allocation.unused ++ later⟩ := by
  intro terms offers
  have known : credit.precision = .ok 2 := by decide +kernel
  have rounds := Money.rounded_eq_ok_iff.mpr ⟨2, known, rfl⟩
  have positive : 0 < (credit.amount.round 2).units := by decide +kernel
  have room : ∀ offer ∈ offers, offer.HasRoom := by
    have each : ∀ offer ∈ offers, offer.payment.precision = .ok 2 ∧
        offer.payment.snapped.units <
          (Decimal.mantissaBound * 10 ^ (Decimal.maxScale - 2) : Nat) := by decide +kernel
    intro offer member places offerKnown
    cases (each offer member).1.symm.trans offerKnown
    exact (each offer member).2
  rcases allocate_closes_or_fails rounds positive room (.ofClock 0 1) credit.time with
    ⟨failure, fails⟩ | ⟨share, before, closing, after, taken, excess, allocation, closed⟩
  · have covered : (allocate { terms with policy := .drop } (.ofClock 0 1) credit offers
        credit.time).isOk = true := by decide +kernel
    rw [fails .drop] at covered
    cases covered
  · exact ⟨_, share, before, closing, after, taken, excess, allocation, rounds, positive, room,
      closed⟩

end AllocationTerms

end LoanBook
