import LoanBook.Proofs.Allocation.Steps
import LoanBook.Proofs.Schedule.Failures

/-!
# Offers that fall short

An allocation says that its principal is not covered only after it went through all the offers:
each was taken as a partial fill or passed over, and none met or exceeded what was outstanding.
`AllocationTerms.FallsShort` says so, step by step, as `AllocationTerms.Fills` does for offers that
cover the principal.
-/

namespace LoanBook

/-- The failure of offers that do not cover the principal. -/
def Failure.IsUncovered (failure : Failure) : Prop :=
  ∃ missing, failure = .rejected (.coverage missing)

theorem Failure.IsRefusal.not_isUncovered {failure : Failure} (refusal : failure.IsRefusal) :
    ¬ failure.IsUncovered := by
  rintro ⟨missing, rfl⟩
  exact refusal

/-- A computation that never fails for want of offers. -/
abbrev NeverUncovered {α : Type} (computation : Except Failure α) : Prop :=
  FailsWithin (fun failure => ¬ failure.IsUncovered) computation

section Steps

variable {α β : Type}

theorem FailsWithin.covered {computation : Except Failure α}
    (refuses : FailsWithin Failure.IsRefusal computation) : NeverUncovered computation :=
  refuses.mono fun _ => Failure.IsRefusal.not_isUncovered

/-- When offers fall short in a computation whose first step does not say so, the step succeeds. -/
theorem exists_of_bind_uncovered {step : Except Failure α} {next : α → Except Failure β}
    {missing : Money} (covered : NeverUncovered step)
    (failed : step >>= next = .error (.rejected (.coverage missing))) :
    ∃ value, step = .ok value ∧ next value = .error (.rejected (.coverage missing)) := by
  rcases bind_eq_error_iff.mp failed with first | later
  · exact absurd ⟨missing, rfl⟩ (covered _ first)
  · exact later

end Steps

namespace Money

theorem rounded_neverUncovered (money : Money) : NeverUncovered money.rounded :=
  money.rounded_refuses.covered

theorem minus_neverUncovered (money other : Money) : NeverUncovered (money.minus other) :=
  (money.minus_refuses other).covered

theorem split_neverUncovered (money : Money) (portion : Rate) :
    NeverUncovered (money.split portion) := by
  unfold split
  split
  · split
    · exact .reject (by simp [Failure.IsUncovered])
    · refine .bind (rounded_neverUncovered _) fun taken => ?_
      exact .bind (.granted _ (by simp [Failure.IsUncovered])) fun _ => .ok _
  · exact .reject (by simp [Failure.IsUncovered])

end Money

/-- What an offer counts as a partial fill: its rounded amount, if that lies between two bounds. -/
def LenderOffer.partUnits (least most : Decimal) (offer : LenderOffer) : Int :=
  match offer.payment.rounded with
  | .ok rounded =>
    if least ≤ rounded.value.amount ∧ rounded.value.amount ≤ most then rounded.value.units else 0
  | .error _ => 0

/-- The sum of the partial fills among some offers, in units of `10 ^ -28`. -/
def partUnits (least most : Decimal) (offers : List LenderOffer) : Int :=
  (offers.map (LenderOffer.partUnits least most)).sum

section PartUnits

variable {least most : Decimal} {listed : LenderOffer} {rest : List LenderOffer} {rounded : Rounded}

theorem partUnits_cons_of_accepted (rounds : listed.payment.rounded = .ok rounded)
    (accepted : least ≤ rounded.value.amount ∧ rounded.value.amount ≤ most) :
    partUnits least most (listed :: rest) = rounded.value.units + partUnits least most rest := by
  simp [partUnits, LenderOffer.partUnits, rounds, accepted]

theorem partUnits_cons_of_refused (rounds : listed.payment.rounded = .ok rounded)
    (refused : ¬ (least ≤ rounded.value.amount ∧ rounded.value.amount ≤ most)) :
    partUnits least most (listed :: rest) = partUnits least most rest := by
  simp [partUnits, LenderOffer.partUnits, rounds, refused]

theorem partUnits_nonneg (nonneg : 0 ≤ least.units) (offers : List LenderOffer) :
    0 ≤ partUnits least most offers := by
  apply List.sum_nonneg
  intro amount member
  obtain ⟨offer, _, rfl⟩ := List.mem_map.mp member
  unfold LenderOffer.partUnits
  split
  · split
    · exact Int.le_trans nonneg (Decimal.le_def.mp (And.left ‹_›))
    · exact Int.le_refl 0
  · exact Int.le_refl 0

end PartUnits

namespace AllocationTerms

variable {terms : AllocationTerms} {bounds : AllocationBounds}

theorem use_neverUncovered (offer : LenderOffer) (investment : Money) :
    NeverUncovered (terms.use bounds offer investment) := by
  refine .bind (investment.split_neverUncovered _) fun interest => ?_
  exact .bind (investment.sum_refuses _).covered fun _ => .ok _

theorem overfill_neverUncovered (offer : LenderOffer) (outstanding : Decimal) :
    NeverUncovered (overfill offer outstanding) := by
  unfold overfill
  split
  · exact .reject (by simp [Failure.IsUncovered])
  · refine .bind (offer.payment.split_neverUncovered _) fun split => ?_
    split
    · exact .ok _
    · exact .reject (by simp [Failure.IsUncovered])

theorem step_neverUncovered (progress : AllocationProgress) (listed : LenderOffer) :
    NeverUncovered (terms.step overfill bounds progress listed) :=
  step_failsWithin (by simp [Failure.IsUncovered]) Money.rounded_neverUncovered
    use_neverUncovered overfill_neverUncovered Money.minus_neverUncovered

/-- The ways in which offers come to an end with something of the principal missing. -/
inductive FallsShort (terms : AllocationTerms) (bounds : AllocationBounds) :
    AllocationProgress → List LenderOffer → Money → Prop where
  | done {progress : AllocationProgress} : FallsShort terms bounds progress [] progress.remaining
  | part {progress : AllocationProgress} {listed : LenderOffer} {rest : List LenderOffer}
      {rounded : Rounded} {used : UsedInvestment} {remaining missing : Money}
      (currency : listed.payment.currency = bounds.currency)
      (rounds : listed.payment.rounded = .ok rounded)
      (short : rounded.value.amount < progress.remaining.amount)
      (accepted : bounds.least ≤ rounded.value.amount ∧ rounded.value.amount ≤ bounds.most)
      (uses : terms.use bounds { listed with payment := rounded.value } rounded.value = .ok used)
      (leaves : progress.remaining.minus rounded.value = .ok remaining)
      (later : FallsShort terms bounds ⟨used :: progress.used, progress.unused, remaining⟩ rest
        missing) :
      FallsShort terms bounds progress (listed :: rest) missing
  | skip {progress : AllocationProgress} {listed : LenderOffer} {rest : List LenderOffer}
      {rounded : Rounded} {missing : Money}
      (rounds : listed.payment.rounded = .ok rounded)
      (refused : ¬ (bounds.least ≤ rounded.value.amount ∧ rounded.value.amount ≤ bounds.most))
      (later : FallsShort terms bounds
        { progress with unused := { listed with payment := rounded.value } :: progress.unused }
        rest missing) :
      FallsShort terms bounds progress (listed :: rest) missing

theorem fallsShort_of_fillBy {progress : AllocationProgress} {offers : List LenderOffer}
    {missing : Money}
    (failed : terms.fillBy overfill bounds progress offers =
      .error (.rejected (.coverage missing))) :
    FallsShort terms bounds progress offers missing := by
  induction offers generalizing progress with
  | nil =>
      cases failed
      exact .done
  | cons listed rest ih =>
      rw [fillBy_cons] at failed
      obtain ⟨next, steps, failed⟩ :=
        exists_of_bind_uncovered (step_neverUncovered progress listed) failed
      obtain ⟨currency, rounded, rounds, considers⟩ := considers_of_step steps
      cases considers with
      | exact meets uses leaves => cases failed
      | larger exceeds divides leaves uses => cases failed
      | @part used remaining short accepted uses leaves =>
          cases covered : remaining.amount.isZero with
          | true =>
              rw [if_pos covered] at failed
              cases failed
          | false =>
              rw [if_neg (by simp [covered])] at failed
              exact .part currency rounds short accepted uses leaves (ih failed)
      | skip short refused => exact .skip rounds refused (ih failed)

end AllocationTerms

end LoanBook
