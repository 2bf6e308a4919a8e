import LoanBook.Allocation
import LoanBook.Proofs.Money.Failures

/-!
# The steps of an allocation

Offers are considered one by one until one of them closes the allocation.  What an offer leads to
depends neither on the offers after it nor on the policy for those, and an offer counts as its
payment rounded to minor units.
-/

namespace LoanBook

namespace Money

/-- Money rounded to the minor unit of its currency, if that is known. -/
def snapped (money : Money) : Money :=
  match money.rounded with
  | .ok rounded => rounded.value
  | .error _ => money

variable {money : Money} {rounded : Rounded} {places : Nat}

theorem snapped_of_rounded (rounds : money.rounded = .ok rounded) :
    money.snapped = rounded.value := by
  rw [snapped, rounds]

theorem snapped_of_error {failure : Failure} (fails : money.rounded = .error failure) :
    money.snapped = money := by
  rw [snapped, fails]

theorem IsMinor.snapped (minor : money.IsMinor places) : money.snapped = money :=
  snapped_of_rounded minor.rounded_eq

@[simp] theorem snapped_currency (money : Money) : money.snapped.currency = money.currency := by
  cases rounds : money.rounded with
  | error failure => rw [snapped_of_error rounds]
  | ok rounded =>
      obtain ⟨_, _, _, valueEq⟩ := isMinor_of_rounded rounds
      rw [snapped_of_rounded rounds, valueEq]

@[simp] theorem snapped_snapped (money : Money) : money.snapped.snapped = money.snapped := by
  cases rounds : money.rounded with
  | error failure => rw [snapped_of_error rounds, snapped_of_error rounds]
  | ok rounded =>
      obtain ⟨_, minor, _⟩ := isMinor_of_rounded rounds
      rw [snapped_of_rounded rounds, minor.snapped]

/-- Rounding a second time gives the same value, or fails as before. -/
theorem snapped_rounded (money : Money) :
    Rounded.value <$> money.snapped.rounded = Rounded.value <$> money.rounded := by
  cases rounds : money.rounded with
  | error failure => rw [snapped_of_error rounds, rounds]
  | ok rounded =>
      obtain ⟨_, minor, _⟩ := isMinor_of_rounded rounds
      rw [snapped_of_rounded rounds, minor.rounded_eq]
      rfl

/-- What is made of the rounded value alone can be made of money that was rounded before. -/
theorem snapped_rounded_bind {α : Type} (money : Money) (next : Money → Except Failure α) :
    (money.snapped.rounded >>= fun rounded => next rounded.value) =
      money.rounded >>= fun rounded => next rounded.value := by
  rw [← bind_map_left, snapped_rounded, bind_map_left]

end Money

namespace LenderOffer

/-- The offer that an offer counts as, of money rounded to minor units. -/
def snapped (offer : LenderOffer) : LenderOffer :=
  { offer with payment := offer.payment.snapped }

theorem snapped_of_rounded {offer : LenderOffer} {rounded : Rounded}
    (rounds : offer.payment.rounded = .ok rounded) :
    offer.snapped = { offer with payment := rounded.value } := by
  rw [snapped, Money.snapped_of_rounded rounds]

@[simp] theorem snapped_snapped (offer : LenderOffer) : offer.snapped.snapped = offer.snapped := by
  rw [snapped, snapped, Money.snapped_snapped]

end LenderOffer

/-- Where an offer leaves an allocation, and whether the principal is covered by then. -/
structure AllocationStep where
  progress : AllocationProgress
  covered : Bool

namespace AllocationTerms

/-- Goes on with an allocation by an offer of rounded money. -/
def consider (divide : LenderOffer → Decimal → Except Failure Split) (terms : AllocationTerms)
    (bounds : AllocationBounds) (progress : AllocationProgress) (offer : LenderOffer) :
    Except Failure AllocationStep :=
  let amount := offer.payment.amount
  let outstanding := progress.remaining.amount
  if amount ≈ outstanding then do
    let used ← terms.use bounds offer offer.payment
    let remaining ← progress.remaining.minus offer.payment
    return ⟨{ progress with used := used :: progress.used, remaining }, true⟩
  else if outstanding < amount then do
    let split ← divide offer outstanding
    let remaining ← progress.remaining.minus split.taken
    let used ← terms.use bounds offer split.taken
    let unused := { offer with payment := split.remainder }
    return ⟨⟨used :: progress.used, unused :: progress.unused, remaining⟩, true⟩
  else if bounds.least ≤ amount ∧ amount ≤ bounds.most then do
    let used ← terms.use bounds offer offer.payment
    let remaining ← progress.remaining.minus offer.payment
    return ⟨{ progress with used := used :: progress.used, remaining }, remaining.amount.isZero⟩
  else return ⟨{ progress with unused := offer :: progress.unused }, false⟩

/-- Goes on with an allocation by the next offer in the list, which must be of its currency and
counts as rounded. -/
def step (divide : LenderOffer → Decimal → Except Failure Split) (terms : AllocationTerms)
    (bounds : AllocationBounds) (progress : AllocationProgress) (listed : LenderOffer) :
    Except Failure AllocationStep :=
  if listed.payment.currency ≠ bounds.currency then
    reject (.currencyMismatch bounds.currency listed.payment.currency)
  else do
    let rounded ← listed.payment.rounded
    terms.consider divide bounds progress { listed with payment := rounded.value }

/-- Goes through offers up to the one that closes the allocation, and tells which come after it. -/
def settle (divide : LenderOffer → Decimal → Except Failure Split) (terms : AllocationTerms)
    (bounds : AllocationBounds) (progress : AllocationProgress) :
    List LenderOffer → Except Failure (AllocationProgress × List LenderOffer)
  | [] => reject (.coverage progress.remaining)
  | listed :: rest => do
    let next ← terms.step divide bounds progress listed
    if next.covered then return (next.progress, rest)
    else settle divide terms bounds next.progress rest

section Settle

variable {divide : LenderOffer → Decimal → Except Failure Split} {terms : AllocationTerms}
  {bounds : AllocationBounds} {progress last : AllocationProgress}
  {listed : LenderOffer} {offers rest : List LenderOffer}

/-- Filling an allocation takes a step, and closes it or goes on. -/
theorem fillBy_cons :
    terms.fillBy divide bounds progress (listed :: rest) =
      terms.step divide bounds progress listed >>= fun next =>
        if next.covered then .ok (next.progress.close terms.policy rest)
        else terms.fillBy divide bounds next.progress rest := by
  rw [fillBy, step]
  by_cases foreign : listed.payment.currency ≠ bounds.currency
  · rw [if_pos foreign, if_pos foreign]
    rfl
  · rw [if_neg foreign, if_neg foreign, bind_assoc]
    congr 1
    funext rounded
    simp only [consider]
    split_ifs
    · simp only [bind_assoc]
      rfl
    · simp only [bind_assoc]
      rfl
    · simp only [bind_assoc]
      rfl
    · rfl

/-- Filling an allocation is settling it and then closing it by the policy. -/
theorem fillBy_eq_map_settle :
    terms.fillBy divide bounds progress offers =
      (fun settled => settled.1.close terms.policy settled.2) <$>
        terms.settle divide bounds progress offers := by
  induction offers generalizing progress with
  | nil => rfl
  | cons listed rest ih =>
      rw [fillBy_cons, settle, map_bind]
      congr 1
      funext next
      rw [ih]
      split_ifs <;> rfl

/-- The policy has no part in a step. -/
theorem settle_withPolicy (policy : CoveredOfferPolicy) :
    settle divide { terms with policy } bounds progress offers =
      settle divide terms bounds progress offers := by
  induction offers generalizing progress with
  | nil => rfl
  | cons listed rest ih =>
      simp only [settle, ih]
      rfl

/-- An offer counts as rounded. -/
theorem step_snapped :
    terms.step divide bounds progress listed.snapped = terms.step divide bounds progress listed := by
  unfold step LenderOffer.snapped
  rw [Money.snapped_currency,
    Money.snapped_rounded_bind listed.payment fun payment =>
      terms.consider divide bounds progress { listed with payment }]

theorem settle_map_snapped :
    terms.settle divide bounds progress (offers.map LenderOffer.snapped) =
      (fun settled => (settled.1, settled.2.map LenderOffer.snapped)) <$>
        terms.settle divide bounds progress offers := by
  induction offers generalizing progress with
  | nil => rfl
  | cons listed rest ih =>
      rw [List.map_cons, settle, settle, step_snapped, map_bind]
      congr 1
      funext next
      rw [ih]
      split_ifs <;> rfl

/-- Offers that leave an allocation under way, one after the other. -/
inductive Passes (divide : LenderOffer → Decimal → Except Failure Split) (terms : AllocationTerms)
    (bounds : AllocationBounds) :
    AllocationProgress → List LenderOffer → AllocationProgress → Prop where
  | refl (progress : AllocationProgress) : Passes divide terms bounds progress [] progress
  | cons {progress final : AllocationProgress} {listed : LenderOffer} {before : List LenderOffer}
      {next : AllocationProgress}
      (steps : terms.step divide bounds progress listed = .ok ⟨next, false⟩)
      (passes : Passes divide terms bounds next before final) :
      Passes divide terms bounds progress (listed :: before) final

/-- An allocation is settled by the first offer that covers the principal. -/
theorem settle_eq_ok_iff :
    terms.settle divide bounds progress offers = .ok (last, rest) ↔
      ∃ before closing final, offers = before ++ closing :: rest ∧
        Passes divide terms bounds progress before final ∧
        terms.step divide bounds final closing = .ok ⟨last, true⟩ := by
  constructor
  · intro settles
    induction offers generalizing progress with
    | nil => cases settles
    | cons listed offers ih =>
        rw [settle, bind_eq_ok_iff] at settles
        obtain ⟨⟨next, covered⟩, steps, settles⟩ := settles
        cases covered with
        | true =>
            cases settles
            exact ⟨[], listed, progress, rfl, .refl progress, steps⟩
        | false =>
            obtain ⟨before, closing, final, rfl, passes, closes⟩ := ih settles
            exact ⟨listed :: before, closing, final, rfl, .cons steps passes, closes⟩
  · rintro ⟨before, closing, final, rfl, passes, closes⟩
    induction passes with
    | refl progress =>
        rw [List.nil_append, settle, closes]
        rfl
    | cons steps passes ih =>
        rw [List.cons_append, settle, steps]
        exact ih closes

/-- What an offer of rounded money can lead to. -/
inductive Considers (divide : LenderOffer → Decimal → Except Failure Split)
    (terms : AllocationTerms) (bounds : AllocationBounds) (progress : AllocationProgress)
    (offer : LenderOffer) : AllocationStep → Prop where
  | exact {used : UsedInvestment} {remaining : Money}
      (meets : offer.payment.amount ≈ progress.remaining.amount)
      (uses : terms.use bounds offer offer.payment = .ok used)
      (leaves : progress.remaining.minus offer.payment = .ok remaining) :
      Considers divide terms bounds progress offer
        ⟨⟨used :: progress.used, progress.unused, remaining⟩, true⟩
  | larger {split : Split} {used : UsedInvestment} {remaining : Money}
      (exceeds : progress.remaining.amount < offer.payment.amount)
      (divides : divide offer progress.remaining.amount = .ok split)
      (leaves : progress.remaining.minus split.taken = .ok remaining)
      (uses : terms.use bounds offer split.taken = .ok used) :
      Considers divide terms bounds progress offer
        ⟨⟨used :: progress.used, { offer with payment := split.remainder } :: progress.unused,
          remaining⟩, true⟩
  | part {used : UsedInvestment} {remaining : Money}
      (short : offer.payment.amount < progress.remaining.amount)
      (accepted : bounds.least ≤ offer.payment.amount ∧ offer.payment.amount ≤ bounds.most)
      (uses : terms.use bounds offer offer.payment = .ok used)
      (leaves : progress.remaining.minus offer.payment = .ok remaining) :
      Considers divide terms bounds progress offer
        ⟨⟨used :: progress.used, progress.unused, remaining⟩, remaining.amount.isZero⟩
  | skip (short : offer.payment.amount < progress.remaining.amount)
      (refused : ¬ (bounds.least ≤ offer.payment.amount ∧ offer.payment.amount ≤ bounds.most)) :
      Considers divide terms bounds progress offer
        ⟨{ progress with unused := offer :: progress.unused }, false⟩

theorem considers_of_consider {offer : LenderOffer} {next : AllocationStep}
    (considered : terms.consider divide bounds progress offer = .ok next) :
    Considers divide terms bounds progress offer next := by
  unfold consider at considered
  by_cases meets : offer.payment.amount ≈ progress.remaining.amount
  · rw [if_pos meets] at considered
    obtain ⟨used, uses, considered⟩ := bind_eq_ok_iff.mp considered
    obtain ⟨remaining, leaves, considered⟩ := bind_eq_ok_iff.mp considered
    cases considered
    exact .exact meets uses leaves
  · rw [if_neg meets] at considered
    by_cases exceeds : progress.remaining.amount < offer.payment.amount
    · rw [if_pos exceeds] at considered
      obtain ⟨split, divides, considered⟩ := bind_eq_ok_iff.mp considered
      obtain ⟨remaining, leaves, considered⟩ := bind_eq_ok_iff.mp considered
      obtain ⟨used, uses, considered⟩ := bind_eq_ok_iff.mp considered
      cases considered
      exact .larger exceeds divides leaves uses
    · rw [if_neg exceeds] at considered
      have short : offer.payment.amount < progress.remaining.amount := by
        rw [Decimal.equiv_def] at meets
        rw [Decimal.lt_def] at exceeds ⊢
        omega
      by_cases accepted : bounds.least ≤ offer.payment.amount ∧ offer.payment.amount ≤ bounds.most
      · rw [if_pos accepted] at considered
        obtain ⟨used, uses, considered⟩ := bind_eq_ok_iff.mp considered
        obtain ⟨remaining, leaves, considered⟩ := bind_eq_ok_iff.mp considered
        cases considered
        exact .part short accepted uses leaves
      · rw [if_neg accepted] at considered
        cases considered
        exact .skip short accepted

theorem considers_of_step {next : AllocationStep}
    (steps : terms.step divide bounds progress listed = .ok next) :
    listed.payment.currency = bounds.currency ∧
      ∃ rounded, listed.payment.rounded = .ok rounded ∧
        Considers divide terms bounds progress { listed with payment := rounded.value } next := by
  unfold step at steps
  by_cases foreign : listed.payment.currency ≠ bounds.currency
  · rw [if_pos foreign] at steps
    cases steps
  · rw [if_neg foreign] at steps
    obtain ⟨rounded, rounds, considered⟩ := bind_eq_ok_iff.mp steps
    exact ⟨not_not.mp foreign, rounded, rounds, considers_of_consider considered⟩

/-- A step fails for want of the right currency, or where one of its operations does. -/
theorem step_failsWithin {cause : Failure → Prop}
    (mismatch : ∀ expected found, cause (.rejected (.currencyMismatch expected found)))
    (rounds : ∀ money : Money, FailsWithin cause money.rounded)
    (uses : ∀ offer investment, FailsWithin cause (terms.use bounds offer investment))
    (divides : ∀ offer outstanding, FailsWithin cause (divide offer outstanding))
    (leaves : ∀ money other : Money, FailsWithin cause (money.minus other)) :
    FailsWithin cause (terms.step divide bounds progress listed) := by
  unfold step
  split
  · exact .reject (mismatch _ _)
  · refine .bind (rounds _) fun rounded => ?_
    unfold consider
    dsimp only
    split
    · exact .bind (uses _ _) fun used => .bind (leaves _ _) fun _ => .ok _
    · split
      · exact .bind (divides _ _) fun split => .bind (leaves _ _) fun _ => .bind (uses _ _) fun _ => .ok _
      · split
        · exact .bind (uses _ _) fun used => .bind (leaves _ _) fun _ => .ok _
        · exact .ok _

end Settle

/-- The bounds that an allocation of rounded money goes by, with all of it outstanding. -/
def bounded (terms : AllocationTerms) (loan : LoanId) (principal : Money) (now : Calendar.Instant) :
    Except Failure (AllocationBounds × AllocationProgress) := do
  let share ← principal.split terms.minInvestmentRate
  let repaymentDue ← dueAfter now terms.installmentCount
  return ⟨⟨principal.currency, share.taken.amount, share.remainder.amount, repaymentDue,
    "Repayment for loan [" ++ loan.toText ++ "]"⟩, [], [], principal⟩

/-- What an allocation starts from: the bounds, and the rounded principal. -/
def opening (terms : AllocationTerms) (loan : LoanId) (principal : Money) (now : Calendar.Instant) :
    Except Failure (AllocationBounds × AllocationProgress) := do
  let rounded ← principal.rounded
  terms.bounded loan rounded.value now

/-- An allocation up to the offer that closes it, with the offers that come after. -/
def settlement (terms : AllocationTerms) (loan : LoanId) (principal : Money)
    (offers : List LenderOffer) (now : Calendar.Instant) :
    Except Failure (AllocationProgress × List LenderOffer) := do
  let start ← terms.opening loan principal now
  terms.settle overfill start.1 start.2 offers

section Settlement

variable (terms : AllocationTerms) (loan : LoanId) (principal : Money) (offers : List LenderOffer)
  (now : Calendar.Instant)

theorem allocate_eq_bind_opening :
    terms.allocate loan principal offers now =
      terms.opening loan principal now >>= fun start =>
        terms.fillBy overfill start.1 start.2 offers := by
  simp only [allocate, allocateBy, opening, bounded, bind_assoc, pure_bind]

theorem allocate_eq_map_settlement :
    terms.allocate loan principal offers now =
      (fun settled => settled.1.close terms.policy settled.2) <$>
        terms.settlement loan principal offers now := by
  simp only [allocate_eq_bind_opening, settlement, map_bind, fillBy_eq_map_settle]

theorem settlement_withPolicy (policy : CoveredOfferPolicy) :
    settlement { terms with policy } loan principal offers now =
      terms.settlement loan principal offers now := by
  simp only [settlement, settle_withPolicy]
  rfl

theorem opening_snapped :
    terms.opening loan principal.snapped now = terms.opening loan principal now :=
  principal.snapped_rounded_bind fun principal => terms.bounded loan principal now

theorem settlement_snapped :
    terms.settlement loan principal.snapped (offers.map LenderOffer.snapped) now =
      (fun settled => (settled.1, settled.2.map LenderOffer.snapped)) <$>
        terms.settlement loan principal offers now := by
  simp only [settlement, opening_snapped, settle_map_snapped, map_bind]

end Settlement

end AllocationTerms

end LoanBook
