import LoanBook.Proofs.Failure.Steps
import LoanBook.Proofs.Money.Nearest
import LoanBook.Request

/-!
# Admission of offers

The offers of a request go through two passes: all of them are checked as they are listed, and then
all of them are rounded.  Together the passes let in the requests whose offers are well formed, and
no others.  Admitted offers stay in their order, each with its amount rounded and a notice if that
changed it.  A refused request is refused for the first offer at fault in the pass that comes upon
it, so that a fault found by the check goes before one found by rounding, wherever it is listed.
-/

namespace LoanBook

open Rounding (IsNearestMultiple)

/-- A user is named by a text that holds more than white space. -/
def UserId.IsNamed (user : UserId) : Prop :=
  ∃ letter ∈ user.name.toList, Text.isBlank letter = false

theorem requireText_of_isNamed {user : UserId} (named : user.IsNamed) (field : RequiredField) :
    requireText user.name field = .ok () := by
  obtain ⟨letter, letterMem, notBlank⟩ := named
  have notAll : Text.allBlank user.name = false :=
    List.all_eq_false.mpr ⟨letter, letterMem, by simp [notBlank]⟩
  rw [requireText, notAll]
  rfl

theorem requireText_of_not_isNamed {user : UserId} (unnamed : ¬ user.IsNamed)
    (field : RequiredField) : requireText user.name field = rejectIssue (.missing field) := by
  have all : Text.allBlank user.name = true := by
    refine List.all_eq_true.mpr fun letter letterMem => ?_
    cases blank : Text.isBlank letter with
    | true => rfl
    | false => exact absurd ⟨letter, letterMem, blank⟩ unnamed
  rw [requireText, if_pos all]

theorem Money.precision_of_unknown {money : Money}
    (unknown : Currency.lookup? money.currency = none) :
    money.precision = reject (.unknownCurrency money.currency) := by
  rw [precision, unknown]

namespace LenderOffer

/-- An offer passes the check among offers in some currency. -/
structure IsFaultless (code : String) (offer : LenderOffer) : Prop where
  named : offer.lender.IsNamed
  known : ∃ currency, Currency.lookup? offer.payment.currency = some currency
  positive : 0 < offer.payment.units
  same : offer.payment.currency = code

/-- What the check finds wrong with an offer among offers in some currency.  Of several faults it is
the first in this order. -/
inductive Offends (code : String) (offer : LenderOffer) : LoanError → Prop where
  | unnamed (unnamed : ¬ offer.lender.IsNamed) : Offends code offer (.validation (.missing .lender))
  | unknown (named : offer.lender.IsNamed)
      (unknown : Currency.lookup? offer.payment.currency = none) :
      Offends code offer (.unknownCurrency offer.payment.currency)
  | notPositive {currency : Currency} (named : offer.lender.IsNamed)
      (known : Currency.lookup? offer.payment.currency = some currency)
      (notPositive : offer.payment.units ≤ 0) :
      Offends code offer (.validation (.offerNotPositive offer.lender offer.payment))
  | foreign {currency : Currency} (named : offer.lender.IsNamed)
      (known : Currency.lookup? offer.payment.currency = some currency)
      (positive : 0 < offer.payment.units) (foreign : offer.payment.currency ≠ code) :
      Offends code offer (.currencyMismatch code offer.payment.currency)

section Check

variable {code : String} {offer : LenderOffer} {error : LoanError} {failure : Failure}

theorem IsFaultless.check_eq (faultless : offer.IsFaultless code) : offer.check code = .ok () := by
  obtain ⟨currency, found⟩ := faultless.known
  rw [check, requireText_of_isNamed faultless.named, ok_bind, Money.precision_of_found found,
    ok_bind, if_pos (Decimal.isPositive_iff.mpr faultless.positive), if_pos faultless.same]

theorem Offends.check_eq (offends : offer.Offends code error) :
    offer.check code = reject error := by
  cases offends with
  | unnamed unnamed =>
      rw [check, requireText_of_not_isNamed unnamed]
      rfl
  | unknown named unknown =>
      rw [check, requireText_of_isNamed named, ok_bind, Money.precision_of_unknown unknown]
      rfl
  | notPositive named known notPositive =>
      rw [check, requireText_of_isNamed named, ok_bind, Money.precision_of_found known, ok_bind,
        if_neg fun positive => Int.not_lt.mpr notPositive (Decimal.isPositive_iff.mp positive)]
      rfl
  | foreign named known positive foreign =>
      rw [check, requireText_of_isNamed named, ok_bind, Money.precision_of_found known, ok_bind,
        if_pos (Decimal.isPositive_iff.mpr positive), if_neg foreign]

theorem isFaultless_or_offends (code : String) (offer : LenderOffer) :
    offer.IsFaultless code ∨ ∃ error, offer.Offends code error := by
  by_cases named : offer.lender.IsNamed
  · cases known : Currency.lookup? offer.payment.currency with
    | none => exact Or.inr ⟨_, .unknown named known⟩
    | some currency =>
        by_cases positive : 0 < offer.payment.units
        · by_cases same : offer.payment.currency = code
          · exact Or.inl ⟨named, ⟨currency, known⟩, positive, same⟩
          · exact Or.inr ⟨_, .foreign named known positive same⟩
        · exact Or.inr ⟨_, .notPositive named known (Int.not_lt.mp positive)⟩
  · exact Or.inr ⟨_, .unnamed named⟩

theorem check_eq_ok_iff : offer.check code = .ok () ↔ offer.IsFaultless code := by
  refine ⟨fun checked => ?_, IsFaultless.check_eq⟩
  rcases offer.isFaultless_or_offends code with faultless | ⟨error, offends⟩
  · exact faultless
  · exact absurd (checked.symm.trans offends.check_eq) (ok_ne_reject () error)

theorem check_eq_error_iff : offer.check code = .error failure ↔
    ∃ error, failure = .rejected error ∧ offer.Offends code error := by
  constructor
  · intro failed
    rcases offer.isFaultless_or_offends code with faultless | ⟨error, offends⟩
    · cases faultless.check_eq.symm.trans failed
    · cases offends.check_eq.symm.trans failed
      exact ⟨error, rfl, offends⟩
  · rintro ⟨error, rfl, offends⟩
    exact offends.check_eq

end Check

/-- An offer is rounded to another one: its amount becomes the nearest multiple of the minor unit of
its currency, which lies above zero, and nothing else changes. -/
structure RoundsTo (currency : Currency) (listed offer : LenderOffer) : Prop where
  keeps : offer =
    { listed with payment := { listed.payment with amount := offer.payment.amount } }
  minor : offer.payment.IsMinorOf currency
  nearest : IsNearestMultiple (10 ^ (Decimal.maxScale - currency.precision)) listed.payment.units
    offer.payment.units
  positive : 0 < offer.payment.units

/-- Nothing of an offer is left by rounding. -/
def Vanishes (offer : LenderOffer) : Prop :=
  ∃ currency, Currency.lookup? offer.payment.currency = some currency ∧
    IsNearestMultiple (10 ^ (Decimal.maxScale - currency.precision)) offer.payment.units 0

/-- An offer is well formed among offers in some currency. -/
structure IsWellFormed (code : String) (offer : LenderOffer) : Prop where
  named : offer.lender.IsNamed
  same : offer.payment.currency = code
  rounds : ∃ currency units, Currency.lookup? offer.payment.currency = some currency ∧
    IsNearestMultiple (10 ^ (Decimal.maxScale - currency.precision)) offer.payment.units units ∧
    0 < units

/-- Listed offers are rounded one by one, with a notice for each that was no multiple of the minor
unit of its currency. -/
inductive RoundsEach : List LenderOffer → List LenderOffer → List PrecisionMismatch → Prop where
  | nil : RoundsEach [] [] []
  | whole {currency : Currency} {listed offer : LenderOffer} {others offers : List LenderOffer}
      {notices : List PrecisionMismatch} (rounds : listed.RoundsTo currency offer)
      (multiple : listed.payment.IsMultipleOf currency)
      (rest : RoundsEach others offers notices) :
      RoundsEach (listed :: others) (offer :: offers) notices
  | fraction {currency : Currency} {listed offer : LenderOffer} {others offers : List LenderOffer}
      {notices : List PrecisionMismatch} (rounds : listed.RoundsTo currency offer)
      (fraction : ¬ listed.payment.IsMultipleOf currency)
      (rest : RoundsEach others offers notices) :
      RoundsEach (listed :: others) (offer :: offers)
        (⟨listed.payment.currency, listed.payment.amount, offer.payment.amount⟩ :: notices)

section Rounded

variable {code : String} {currency : Currency} {listed offer : LenderOffer} {failure : Failure}

theorem RoundsTo.found (roundsTo : listed.RoundsTo currency offer) :
    Currency.lookup? listed.payment.currency = some currency := by
  have found := roundsTo.minor.found
  rwa [roundsTo.keeps] at found

/-- Rounding an offer goes by what is left of its amount. -/
theorem rounded_of_found (found : Currency.lookup? listed.payment.currency = some currency) :
    ∃ rounded, listed.payment.rounded = .ok rounded ∧
      IsNearestMultiple (10 ^ (Decimal.maxScale - currency.precision)) listed.payment.units
        rounded.value.units ∧
      listed.rounded =
        if 0 < rounded.value.units then
          .ok ({ listed with payment := rounded.value }, rounded.mismatch)
        else rejectIssue (.offerVanishes listed.lender listed.payment.amount) := by
  have known := Money.precision_of_found found
  have rounds := Money.rounded_eq_ok_iff.mpr ⟨_, known, rfl⟩
  refine ⟨_, rounds, listed.payment.amount.round_isNearestMultiple
    (Money.places_le_maxScale known), ?_⟩
  rw [rounded, rounds, ok_bind]
  simp only [Decimal.isPositive_iff]
  rfl

/-- An offer is rounded in a known currency only, and noticed if it was no multiple there. -/
theorem roundsTo_of_rounded {notice : Option PrecisionMismatch}
    (rounds : listed.rounded = .ok (offer, notice)) :
    ∃ currency, listed.RoundsTo currency offer ∧
      (notice = none ∧ listed.payment.IsMultipleOf currency ∨
        notice = some ⟨listed.payment.currency, listed.payment.amount, offer.payment.amount⟩ ∧
          ¬ listed.payment.IsMultipleOf currency) := by
  obtain ⟨payment, paymentRounds, _⟩ := bind_eq_ok_iff.mp rounds
  obtain ⟨places, known, rfl⟩ := Money.rounded_eq_ok_iff.mp paymentRounds
  obtain ⟨currency, found⟩ := Money.exists_found_of_precision known
  obtain ⟨same, sameRounds, nearest, roundedEq⟩ := rounded_of_found found
  cases paymentRounds.symm.trans sameRounds
  rw [roundedEq] at rounds
  by_cases positive : 0 < Money.units
      { listed.payment with amount := listed.payment.amount.round places }
  · rw [if_pos positive] at rounds
    cases rounds
    refine ⟨currency, ⟨rfl, .of_rounded found paymentRounds, nearest, positive⟩, ?_⟩
    have unchanged_iff : listed.payment.amount.round places ≈ listed.payment.amount ↔
        listed.payment.IsMultipleOf currency := by
      rw [Money.isMultipleOf_iff_dvd found, Decimal.equiv_def]
      exact nearest.eq_iff_dvd
    by_cases unchanged : listed.payment.amount.round places ≈ listed.payment.amount
    · exact Or.inl ⟨if_pos unchanged, unchanged_iff.mp unchanged⟩
    · exact Or.inr ⟨if_neg unchanged, fun multiple => unchanged (unchanged_iff.mpr multiple)⟩
  · rw [if_neg positive] at rounds
    cases rounds

/-- A faultless offer is not rounded if it vanishes, and only then. -/
theorem rounded_eq_error_iff (faultless : listed.IsFaultless code) :
    listed.rounded = .error failure ↔
      failure = .rejected (.validation (.offerVanishes listed.lender listed.payment.amount)) ∧
        listed.Vanishes := by
  obtain ⟨currency, found⟩ := faultless.known
  obtain ⟨payment, _, nearest, roundedEq⟩ := rounded_of_found found
  rw [roundedEq]
  by_cases positive : 0 < payment.value.units
  · rw [if_pos positive]
    refine iff_of_false (by simp) ?_
    rintro ⟨_, other, otherFound, vanishes⟩
    cases found.symm.trans otherFound
    rw [vanishes.unique nearest] at positive
    exact absurd positive (Int.lt_irrefl 0)
  · rw [if_neg positive]
    have nothing : payment.value.units = 0 :=
      Int.le_antisymm (Int.not_lt.mp positive) (nearest.nonneg faultless.positive)
    rw [nothing] at nearest
    constructor
    · intro refused
      cases refused
      exact ⟨rfl, currency, found, nearest⟩
    · rintro ⟨rfl, _⟩
      rfl

theorem exists_rounded_iff (faultless : listed.IsFaultless code) :
    (∃ result, listed.rounded = .ok result) ↔ ¬ listed.Vanishes := by
  cases rounds : listed.rounded with
  | ok result =>
      refine iff_of_true ⟨result, rfl⟩ fun vanishes => ?_
      cases rounds.symm.trans ((rounded_eq_error_iff faultless).mpr ⟨rfl, vanishes⟩)
  | error failure =>
      exact iff_of_false (by simp) (not_not_intro ((rounded_eq_error_iff faultless).mp rounds).2)

/-- The well-formed offers are those that pass the check and are rounded. -/
theorem isWellFormed_iff :
    offer.IsWellFormed code ↔ offer.IsFaultless code ∧ ∃ result, offer.rounded = .ok result := by
  constructor
  · rintro ⟨named, same, currency, units, found, nearest, positive⟩
    have faultless : offer.IsFaultless code :=
      ⟨named, ⟨currency, found⟩, nearest.pos positive, same⟩
    refine ⟨faultless, (exists_rounded_iff faultless).mpr ?_⟩
    rintro ⟨other, otherFound, vanishes⟩
    cases found.symm.trans otherFound
    rw [vanishes.unique nearest] at positive
    exact absurd positive (Int.lt_irrefl 0)
  · rintro ⟨faultless, ⟨result, notice⟩, rounds⟩
    obtain ⟨currency, roundsTo, _⟩ := roundsTo_of_rounded rounds
    exact ⟨faultless.named, faultless.same, currency, result.payment.units, roundsTo.found,
      roundsTo.nearest, roundsTo.positive⟩

theorem roundsEach_of_mapM {offers : List LenderOffer}
    {results : List (LenderOffer × Option PrecisionMismatch)}
    (mapped : offers.mapM rounded = .ok results) :
    RoundsEach offers (results.map Prod.fst) (results.filterMap Prod.snd) := by
  have each := mapM_eq_ok_iff.mp mapped
  clear mapped
  induction each with
  | nil => exact .nil
  | cons rounds _ ih =>
      obtain ⟨currency, roundsTo, ⟨none, multiple⟩ | ⟨some, fraction⟩⟩ := roundsTo_of_rounded rounds
      · rw [List.map_cons, List.filterMap_cons_none none]
        exact .whole roundsTo multiple ih
      · rw [List.map_cons, List.filterMap_cons_some some]
        exact .fraction roundsTo fraction ih

end Rounded

end LenderOffer

namespace InvestRequest

/-- The offers of a request that passes its check, rounded, with the notices for those that
changed. -/
def admission (request : InvestRequest) :
    Except Failure (List LenderOffer × List PrecisionMismatch) := do
  request.check
  request.roundedOffers

/-- A request has offers, and all of them are well formed among offers in the currency of the
first. -/
def IsWellFormed (request : InvestRequest) : Prop :=
  ∃ first, request.offers.head? = some first ∧
    ∀ offer ∈ request.offers, offer.IsWellFormed first.payment.currency

/-- Why a request is refused: for want of offers, for the first offer that the check finds at fault,
or, if it finds none in the whole list, for the first one that vanishes. -/
inductive IsRefused (request : InvestRequest) : LoanError → Prop where
  | noOffers (none : request.offers = []) : IsRefused request (.validation .noOffers)
  | offends {first offender : LenderOffer} {before after : List LenderOffer} {error : LoanError}
      (head : request.offers.head? = some first)
      (listed : request.offers = before ++ offender :: after)
      (faultless : ∀ offer ∈ before, offer.IsFaultless first.payment.currency)
      (offends : offender.Offends first.payment.currency error) : IsRefused request error
  | vanishes {first offender : LenderOffer} {before after : List LenderOffer}
      (head : request.offers.head? = some first)
      (faultless : ∀ offer ∈ request.offers, offer.IsFaultless first.payment.currency)
      (listed : request.offers = before ++ offender :: after)
      (stays : ∀ offer ∈ before, ¬ offer.Vanishes) (vanishes : offender.Vanishes) :
      IsRefused request (.validation (.offerVanishes offender.lender offender.payment.amount))

variable {request : InvestRequest} {first : LenderOffer} {failure : Failure}

theorem check_eq_forM (head : request.offers.head? = some first) :
    request.check = request.offers.forM (LenderOffer.check first.payment.currency) := by
  obtain ⟨rest, listed⟩ := List.head?_eq_some_iff.mp head
  rw [check, listed]

theorem check_eq_ok_iff (head : request.offers.head? = some first) :
    request.check = .ok () ↔
      ∀ offer ∈ request.offers, offer.IsFaultless first.payment.currency := by
  rw [check_eq_forM head, forM_eq_ok_iff]
  simp only [LenderOffer.check_eq_ok_iff]

theorem check_of_nil (none : request.offers = []) : request.check = rejectIssue .noOffers := by
  rw [check, none]

theorem exists_head_of_check (checked : request.check = .ok ()) :
    ∃ first, request.offers.head? = some first := by
  cases listed : request.offers with
  | nil => cases checked.symm.trans (check_of_nil listed)
  | cons first rest => exact ⟨first, rfl⟩

theorem failsFirst_check_iff {code : String} {offers : List LenderOffer} :
    FailsFirst (LenderOffer.check code) failure offers ↔
      ∃ before offender after error, offers = before ++ offender :: after ∧
        (∀ offer ∈ before, offer.IsFaultless code) ∧ failure = .rejected error ∧
        offender.Offends code error := by
  constructor
  · rintro ⟨before, offender, after, listed, passed, failed⟩
    obtain ⟨error, failureEq, offends⟩ := LenderOffer.check_eq_error_iff.mp failed
    refine ⟨before, offender, after, error, listed, fun offer member => ?_, failureEq, offends⟩
    obtain ⟨⟨⟩, offerPassed⟩ := passed offer member
    exact LenderOffer.check_eq_ok_iff.mp offerPassed
  · rintro ⟨before, offender, after, error, listed, faultless, failureEq, offends⟩
    exact ⟨before, offender, after, listed,
      fun offer member => ⟨(), (faultless offer member).check_eq⟩,
      LenderOffer.check_eq_error_iff.mpr ⟨error, failureEq, offends⟩⟩

theorem failsFirst_rounded_iff {code : String} {offers : List LenderOffer}
    (faultless : ∀ offer ∈ offers, offer.IsFaultless code) :
    FailsFirst LenderOffer.rounded failure offers ↔
      ∃ before offender after, offers = before ++ offender :: after ∧
        (∀ offer ∈ before, ¬ offer.Vanishes) ∧ offender.Vanishes ∧
        failure =
          .rejected (.validation (.offerVanishes offender.lender offender.payment.amount)) := by
  constructor
  · rintro ⟨before, offender, after, rfl, rounded, failed⟩
    have offenderFaultless := faultless offender (by simp)
    obtain ⟨failureEq, vanishes⟩ := (LenderOffer.rounded_eq_error_iff offenderFaultless).mp failed
    refine ⟨before, offender, after, rfl, fun offer member => ?_, vanishes, failureEq⟩
    have offerFaultless := faultless offer (by simp [member])
    exact (LenderOffer.exists_rounded_iff offerFaultless).mp (rounded offer member)
  · rintro ⟨before, offender, after, rfl, stays, vanishes, failureEq⟩
    have offenderFaultless := faultless offender (by simp)
    refine ⟨before, offender, after, rfl, fun offer member => ?_,
      (LenderOffer.rounded_eq_error_iff offenderFaultless).mpr ⟨failureEq, vanishes⟩⟩
    have offerFaultless := faultless offer (by simp [member])
    exact (LenderOffer.exists_rounded_iff offerFaultless).mpr (stays offer member)

theorem roundedOffers_eq_error_iff :
    request.roundedOffers = .error failure ↔
      FailsFirst LenderOffer.rounded failure request.offers := by
  rw [roundedOffers, bind_eq_error_iff, mapM_eq_error_iff]
  simp [pure, Except.pure]

theorem exists_roundsTo_of_mem {offers : List LenderOffer} {notices : List PrecisionMismatch}
    (rounds : request.roundedOffers = .ok (offers, notices)) {offer : LenderOffer}
    (member : offer ∈ offers) :
    ∃ listed ∈ request.offers, ∃ currency, listed.RoundsTo currency offer := by
  obtain ⟨results, mapped, same⟩ := bind_eq_ok_iff.mp rounds
  cases same
  obtain ⟨⟨_, notice⟩, resultMem, rfl⟩ := List.mem_map.mp member
  obtain ⟨listed, listedMem, listedRounds⟩ := exists_of_mem_mapM mapped resultMem
  obtain ⟨currency, roundsTo, _⟩ := LenderOffer.roundsTo_of_rounded listedRounds
  exact ⟨listed, listedMem, currency, roundsTo⟩

/-- The offers of a request that passes its check are rounded to minor units of one currency. -/
theorem roundedOffers_isMinorOf {offers : List LenderOffer} {notices : List PrecisionMismatch}
    (checked : request.check = .ok ()) (rounds : request.roundedOffers = .ok (offers, notices)) :
    ∃ offered, ∀ offer ∈ offers, offer.payment.IsMinorOf offered := by
  obtain ⟨first, head⟩ := exists_head_of_check checked
  have faultless := (check_eq_ok_iff head).mp checked
  obtain ⟨offered, known⟩ := (faultless first (List.mem_of_mem_head? head)).known
  refine ⟨offered, fun offer member => ?_⟩
  obtain ⟨listed, listedMem, currency, roundsTo⟩ := exists_roundsTo_of_mem rounds member
  have found := roundsTo.found
  rw [(faultless listed listedMem).same, known] at found
  cases found
  exact roundsTo.minor

/-- A request is admitted if it is well formed, and only then. -/
theorem exists_admission_iff :
    (∃ offers notices, request.admission = .ok (offers, notices)) ↔ request.IsWellFormed := by
  constructor
  · rintro ⟨offers, notices, admitted⟩
    obtain ⟨⟨⟩, checked, rounds⟩ := bind_eq_ok_iff.mp admitted
    obtain ⟨first, head⟩ := exists_head_of_check checked
    obtain ⟨results, mapped, _⟩ := bind_eq_ok_iff.mp rounds
    have faultless := (check_eq_ok_iff head).mp checked
    have each := exists_mapM_iff.mp ⟨results, mapped⟩
    exact ⟨first, head, fun offer member =>
      LenderOffer.isWellFormed_iff.mpr ⟨faultless offer member, each offer member⟩⟩
  · rintro ⟨first, head, wellFormed⟩
    have each (offer : LenderOffer) (member : offer ∈ request.offers) :=
      LenderOffer.isWellFormed_iff.mp (wellFormed offer member)
    have checked := (check_eq_ok_iff head).mpr fun offer member => (each offer member).1
    obtain ⟨results, mapped⟩ := exists_mapM_iff.mpr fun offer member => (each offer member).2
    refine ⟨results.map Prod.fst, results.filterMap Prod.snd, ?_⟩
    rw [admission, checked, ok_bind, roundedOffers, mapped]
    rfl

theorem roundsEach_of_admission {offers : List LenderOffer} {notices : List PrecisionMismatch}
    (admitted : request.admission = .ok (offers, notices)) :
    LenderOffer.RoundsEach request.offers offers notices := by
  obtain ⟨⟨⟩, _, rounds⟩ := bind_eq_ok_iff.mp admitted
  obtain ⟨results, mapped, same⟩ := bind_eq_ok_iff.mp rounds
  cases same
  exact LenderOffer.roundsEach_of_mapM mapped

theorem admission_eq_error_iff :
    request.admission = .error failure ↔
      ∃ error, failure = .rejected error ∧ request.IsRefused error := by
  rw [admission, bind_eq_error_iff]
  constructor
  · rintro (refused | ⟨⟨⟩, checked, refused⟩)
    · cases listed : request.offers with
      | nil =>
          cases (check_of_nil listed).symm.trans refused
          exact ⟨_, rfl, .noOffers listed⟩
      | cons first rest =>
          have head : request.offers.head? = some first := by rw [listed]; rfl
          rw [check_eq_forM head, forM_eq_error_iff, failsFirst_check_iff] at refused
          obtain ⟨before, offender, after, error, placed, faultless, failureEq, offends⟩ := refused
          exact ⟨error, failureEq, .offends head placed faultless offends⟩
    · obtain ⟨first, head⟩ := exists_head_of_check checked
      have faultless := (check_eq_ok_iff head).mp checked
      rw [roundedOffers_eq_error_iff, failsFirst_rounded_iff faultless] at refused
      obtain ⟨before, offender, after, placed, stays, vanishes, failureEq⟩ := refused
      exact ⟨_, failureEq, .vanishes head faultless placed stays vanishes⟩
  · rintro ⟨error, rfl, refused⟩
    cases refused with
    | noOffers none => exact Or.inl (check_of_nil none)
    | offends head placed faultless offends =>
        refine Or.inl ?_
        rw [check_eq_forM head, forM_eq_error_iff, failsFirst_check_iff]
        exact ⟨_, _, _, _, placed, faultless, rfl, offends⟩
    | vanishes head faultless placed stays vanishes =>
        refine Or.inr ⟨(), (check_eq_ok_iff head).mpr faultless, ?_⟩
        rw [roundedOffers_eq_error_iff, failsFirst_rounded_iff faultless]
        exact ⟨_, _, _, placed, stays, vanishes, rfl⟩

/-- A request is admitted exactly if it is well formed: if it has offers, each of them from a named
lender, in a known currency, the same one for all, and rounded to a multiple of its minor unit above
zero.  The admitted offers are the listed ones in their order with nothing but the amounts rounded,
and the notices are those of the amounts that were no multiples, in the same order.  A request is
refused for the first offer that the check finds at fault, and for the first that vanishes if the
check finds none. -/
theorem admission_answers (request : InvestRequest) :
    ((∃ offers notices, request.admission = .ok (offers, notices)) ↔ request.IsWellFormed) ∧
      (∀ offers notices, request.admission = .ok (offers, notices) →
        LenderOffer.RoundsEach request.offers offers notices) ∧
      ∀ failure, request.admission = .error failure ↔
        ∃ error, failure = .rejected error ∧ request.IsRefused error :=
  ⟨exists_admission_iff, fun _ _ => roundsEach_of_admission, fun _ => admission_eq_error_iff⟩

/-- An offer of ten dollars and one of a dollar and half a cent. -/
def halfCentRequest : InvestRequest :=
  ⟨.ofClock 0 1, [⟨⟨"first"⟩, some "lending", .dollars (.ofDigits false 10 0)⟩,
    ⟨⟨"second"⟩, none, .dollars (.ofDigits false 1005 3)⟩]⟩

/-- An offer of less than half a cent and one of a lender without a name. -/
def faultyRequest : InvestRequest :=
  ⟨.ofClock 0 1, [⟨⟨"first"⟩, none, .dollars (.ofDigits false 4 3)⟩,
    ⟨⟨" "⟩, none, .dollars (.ofDigits false 10 0)⟩]⟩

/-- The half cent is noticed, and of two offers at fault the one that the check finds decides,
though it is listed after the other. -/
theorem admission_answers_halfCent :
    let notices : List PrecisionMismatch := [⟨"USD", .ofDigits false 1005 3, .ofDigits false 101 2⟩]
    halfCentRequest.IsWellFormed ∧
      (∃ offers, halfCentRequest.admission = .ok (offers, notices) ∧
        LenderOffer.RoundsEach halfCentRequest.offers offers notices) ∧
      faultyRequest.admission = rejectIssue (.missing .lender) ∧
      faultyRequest.IsRefused (.validation (.missing .lender)) := by
  intro notices
  have noticed : halfCentRequest.admission.map Prod.snd = .ok notices := by decide +kernel
  have refuses : faultyRequest.admission = rejectIssue (.missing .lender) := by decide +kernel
  obtain ⟨⟨offers, _⟩, admitted, rfl⟩ := map_eq_ok_iff.mp noticed
  obtain ⟨admits, rounds, _⟩ := admission_answers halfCentRequest
  obtain ⟨error, same, refused⟩ := ((admission_answers faultyRequest).2.2 _).mp refuses
  cases same
  exact ⟨admits.mp ⟨offers, notices, admitted⟩, ⟨offers, admitted, rounds offers notices admitted⟩,
    refuses, refused⟩

end InvestRequest

end LoanBook
