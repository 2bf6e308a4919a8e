import LoanBook.Proofs.Allocation.Steps

/-!
# How an allocation is filled

A successful allocation went through its offers one by one.  `AllocationTerms.Fills` says what each
of them can have led to, so that facts about the result are proved by induction on the way there.
-/

namespace LoanBook

/-- The part of an offer that was used, as an offer of its own. -/
def UsedInvestment.source (used : UsedInvestment) : LenderOffer :=
  ⟨used.lender, used.contract, used.investment⟩

namespace AllocationTerms

/-- The ways in which offers fill an allocation under way. -/
inductive Fills (divide : LenderOffer → Decimal → Except Failure Split) (terms : AllocationTerms)
    (bounds : AllocationBounds) : AllocationProgress → List LenderOffer → Allocation → Prop where
  | exact {progress : AllocationProgress} {listed : LenderOffer} {rest : List LenderOffer}
      {rounded : Rounded} {used : UsedInvestment} {remaining : Money}
      (currency : listed.payment.currency = bounds.currency)
      (rounds : listed.payment.rounded = .ok rounded)
      (meets : rounded.value.amount ≈ progress.remaining.amount)
      (uses : terms.use bounds { listed with payment := rounded.value } rounded.value = .ok used)
      (leaves : progress.remaining.minus rounded.value = .ok remaining) :
      Fills divide terms bounds progress (listed :: rest)
        (AllocationProgress.close ⟨used :: progress.used, progress.unused, remaining⟩
          terms.policy rest)
  | larger {progress : AllocationProgress} {listed : LenderOffer} {rest : List LenderOffer}
      {rounded : Rounded} {split : Split} {used : UsedInvestment} {remaining : Money}
      (currency : listed.payment.currency = bounds.currency)
      (rounds : listed.payment.rounded = .ok rounded)
      (exceeds : progress.remaining.amount < rounded.value.amount)
      (divides : divide { listed with payment := rounded.value } progress.remaining.amount =
        .ok split)
      (leaves : progress.remaining.minus split.taken = .ok remaining)
      (uses : terms.use bounds { listed with payment := rounded.value } split.taken = .ok used) :
      Fills divide terms bounds progress (listed :: rest)
        (AllocationProgress.close
          ⟨used :: progress.used, { listed with payment := split.remainder } :: progress.unused,
            remaining⟩ terms.policy rest)
  | last {progress : AllocationProgress} {listed : LenderOffer} {rest : List LenderOffer}
      {rounded : Rounded} {used : UsedInvestment} {remaining : Money}
      (currency : listed.payment.currency = bounds.currency)
      (rounds : listed.payment.rounded = .ok rounded)
      (short : rounded.value.amount < progress.remaining.amount)
      (accepted : bounds.least ≤ rounded.value.amount ∧ rounded.value.amount ≤ bounds.most)
      (uses : terms.use bounds { listed with payment := rounded.value } rounded.value = .ok used)
      (leaves : progress.remaining.minus rounded.value = .ok remaining)
      (covered : remaining.amount.isZero = true) :
      Fills divide terms bounds progress (listed :: rest)
        (AllocationProgress.close ⟨used :: progress.used, progress.unused, remaining⟩
          terms.policy rest)
  | part {progress : AllocationProgress} {listed : LenderOffer} {rest : List LenderOffer}
      {rounded : Rounded} {used : UsedInvestment} {remaining : Money} {allocation : Allocation}
      (currency : listed.payment.currency = bounds.currency)
      (rounds : listed.payment.rounded = .ok rounded)
      (short : rounded.value.amount < progress.remaining.amount)
      (accepted : bounds.least ≤ rounded.value.amount ∧ rounded.value.amount ≤ bounds.most)
      (uses : terms.use bounds { listed with payment := rounded.value } rounded.value = .ok used)
      (leaves : progress.remaining.minus rounded.value = .ok remaining)
      (uncovered : remaining.amount.isZero = false)
      (filled : Fills divide terms bounds ⟨used :: progress.used, progress.unused, remaining⟩ rest
        allocation) :
      Fills divide terms bounds progress (listed :: rest) allocation
  | skip {progress : AllocationProgress} {listed : LenderOffer} {rest : List LenderOffer}
      {rounded : Rounded} {allocation : Allocation}
      (currency : listed.payment.currency = bounds.currency)
      (rounds : listed.payment.rounded = .ok rounded)
      (short : rounded.value.amount < progress.remaining.amount)
      (refused : ¬ (bounds.least ≤ rounded.value.amount ∧ rounded.value.amount ≤ bounds.most))
      (filled : Fills divide terms bounds
        { progress with unused := { listed with payment := rounded.value } :: progress.unused }
        rest allocation) :
      Fills divide terms bounds progress (listed :: rest) allocation

variable {divide : LenderOffer → Decimal → Except Failure Split} {terms : AllocationTerms}
  {bounds : AllocationBounds} {progress : AllocationProgress} {offers : List LenderOffer}
  {allocation : Allocation}

theorem fills_of_fillBy (filled : terms.fillBy divide bounds progress offers = .ok allocation) :
    Fills divide terms bounds progress offers allocation := by
  induction offers generalizing progress with
  | nil => cases filled
  | cons listed rest ih =>
      rw [fillBy_cons] at filled
      obtain ⟨next, steps, filled⟩ := bind_eq_ok_iff.mp filled
      obtain ⟨currency, rounded, rounds, considers⟩ := considers_of_step steps
      cases considers with
      | exact meets uses leaves =>
          cases filled
          exact .exact currency rounds meets uses leaves
      | larger exceeds divides leaves uses =>
          cases filled
          exact .larger currency rounds exceeds divides leaves uses
      | @part used remaining short accepted uses leaves =>
          cases covered : remaining.amount.isZero with
          | true =>
              rw [if_pos covered] at filled
              cases filled
              exact .last currency rounds short accepted uses leaves covered
          | false =>
              rw [if_neg (by simp [covered])] at filled
              exact .part currency rounds short accepted uses leaves covered (ih filled)
      | skip short refused => exact .skip currency rounds short refused (ih filled)

/-- Every offer is used at most once. -/
theorem Fills.used_length_le (filled : Fills divide terms bounds progress offers allocation) :
    allocation.used.length ≤ progress.used.length + offers.length := by
  induction filled with
  | exact currency rounds meets uses leaves =>
      simp only [AllocationProgress.close, List.length_reverse, List.length_cons]
      omega
  | larger currency rounds exceeds divides leaves uses =>
      simp only [AllocationProgress.close, List.length_reverse, List.length_cons]
      omega
  | last currency rounds short accepted uses leaves covered =>
      simp only [AllocationProgress.close, List.length_reverse, List.length_cons]
      omega
  | part currency rounds short accepted uses leaves uncovered filled ih =>
      simp only [List.length_cons] at ih ⊢
      omega
  | skip currency rounds short refused filled ih =>
      simp only [List.length_cons] at ih ⊢
      omega

/-- Something used is one of the earlier uses or another one by the same terms and bounds. -/
def Uses (terms : AllocationTerms) (bounds : AllocationBounds) (earlier : List UsedInvestment)
    (used : UsedInvestment) : Prop :=
  used ∈ earlier ∨ ∃ offer investment, terms.use bounds offer investment = .ok used

theorem uses_of_mem_cons {earlier : List UsedInvestment} {latest used : UsedInvestment}
    {offer : LenderOffer} {investment : Money}
    (uses : terms.use bounds offer investment = .ok latest) (member : used ∈ latest :: earlier) :
    terms.Uses bounds earlier used := by
  rcases List.mem_cons.mp member with rfl | before
  · exact .inr ⟨offer, investment, uses⟩
  · exact .inl before

theorem Fills.uses (filled : Fills divide terms bounds progress offers allocation)
    {used : UsedInvestment} (member : used ∈ allocation.used) :
    terms.Uses bounds progress.used used := by
  induction filled with
  | exact currency rounds meets uses leaves =>
      exact uses_of_mem_cons uses (List.mem_reverse.mp member)
  | larger currency rounds exceeds divides leaves uses =>
      exact uses_of_mem_cons uses (List.mem_reverse.mp member)
  | last currency rounds short accepted uses leaves covered =>
      exact uses_of_mem_cons uses (List.mem_reverse.mp member)
  | part currency rounds short accepted uses leaves uncovered filled ih =>
      rcases ih member with before | used
      · exact uses_of_mem_cons uses before
      · exact .inr used
  | skip currency rounds short refused filled ih => exact ih member

theorem source_of_use {offer : LenderOffer} {investment : Money} {used : UsedInvestment}
    (uses : terms.use bounds offer investment = .ok used) :
    used.source = { offer with payment := investment } := by
  obtain ⟨interest, _, uses⟩ := bind_eq_ok_iff.mp uses
  obtain ⟨owed, _, uses⟩ := bind_eq_ok_iff.mp uses
  cases uses
  rfl

/-- An offer that is split by ratio is split by a portion, which takes what is outstanding. -/
theorem exists_split_of_overfill {offer : LenderOffer} {outstanding : Decimal} {split : Split}
    (divides : overfill offer outstanding = .ok split) :
    ∃ portion, offer.payment.split portion = .ok split ∧ split.taken.amount ≈ outstanding := by
  unfold overfill at divides
  cases portioned : Rate.ratio? outstanding offer.payment.amount with
  | none =>
      rw [portioned] at divides
      cases divides
  | some portion =>
      rw [portioned] at divides
      obtain ⟨found, splits, divides⟩ := bind_eq_ok_iff.mp divides
      by_cases meets : found.taken.amount ≈ outstanding
      · rw [if_pos meets] at divides
        cases divides
        exact ⟨portion, splits, meets⟩
      · rw [if_neg meets] at divides
        cases divides

/-- What a successful allocation started from. -/
theorem fills_of_allocateBy {loan : LoanId} {principal : Money} {now : Calendar.Instant}
    (allocated : terms.allocateBy divide loan principal offers now = .ok allocation) :
    ∃ rounded bounds, principal.rounded = .ok rounded ∧
      bounds.currency = rounded.value.currency ∧
      dueAfter now terms.installmentCount = .ok bounds.repaymentDue ∧
      Fills divide terms bounds ⟨[], [], rounded.value⟩ offers allocation := by
  obtain ⟨rounded, rounds, allocated⟩ := bind_eq_ok_iff.mp allocated
  obtain ⟨share, _, allocated⟩ := bind_eq_ok_iff.mp allocated
  obtain ⟨due, dueEq, allocated⟩ := bind_eq_ok_iff.mp allocated
  exact ⟨rounded, _, rounds, rfl, dueEq, fills_of_fillBy allocated⟩

end AllocationTerms

end LoanBook
