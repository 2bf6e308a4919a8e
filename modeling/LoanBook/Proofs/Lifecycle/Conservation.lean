import LoanBook.Proofs.Lifecycle.Answers
import LoanBook.Proofs.Lifecycle.Balance

/-!
# Funds are conserved

On a new desk with a valid configuration every loan that can be read is balanced for the principal
that it was proposed with, whatever visits there were.  Proposals make balanced loans, investments
keep them balanced because the principal that they read is the one that was proposed, and the other
changes leave the parties alone.
-/

namespace LoanBook

/-- If a visit proposes a loan, three times its rounded principal fits into 96 bits of minor
units. -/
def Visit.IsBounded (visit : Visit) : Prop :=
  ∀ request, visit.request = .propose request → ∀ rounded places,
    request.principal.rounded = .ok rounded → request.principal.precision = .ok places →
      3 * rounded.value.units * 10 ^ places < 2 ^ 96 * 10 ^ 28

/-- A principal that is bounded as proposals are is fundable. -/
theorem Visit.IsBounded.isFundable {visit : Visit} (bounded : visit.IsBounded)
    {request : ProposeRequest} {rounded : Rounded} (proposes : visit.request = .propose request)
    (rounds : request.principal.rounded = .ok rounded)
    (positive : rounded.value.amount.isPositive = true) : rounded.value.IsFundable := by
  obtain ⟨places, minor, known, _⟩ := Money.isMinor_of_rounded rounds
  have units : 0 < rounded.value.units := Decimal.isPositive_iff.mp positive
  refine ⟨places, minor, units, ?_⟩
  have bound := bounded request proposes rounded places rounds known
  have placesLe := Money.places_le_maxScale known
  have split : (10 : Int) ^ 28 = 10 ^ (Decimal.maxScale - places) * 10 ^ places := by
    rw [← pow_add, Nat.sub_add_cancel placesLe]
    rfl
  rw [split, ← Int.mul_assoc] at bound
  have fits : 3 * rounded.value.units < 2 ^ 96 * 10 ^ (Decimal.maxScale - places) :=
    Int.lt_of_mul_lt_mul_right bound (by positivity)
  unfold Decimal.FitsMinor
  zify
  rw [abs_of_nonneg (by omega)]
  exact fits

namespace LoanDesk

/-- The visit of a run that entered a loan proposed the given principal, rounded. -/
def EnteredWith (start : LoanDesk) (visits : List Visit) (id : LoanId) (principal : Money) : Prop :=
  ∃ before visit later request rounded, visits = before ++ visit :: later ∧
    visit.request = .propose request ∧ visit.loanId = id ∧
    (start.run before).store.tables.loan? id = none ∧
    ((start.run before).after visit).store.tables.loan? id ≠ none ∧
    request.principal.rounded = .ok rounded ∧ principal = rounded.value

theorem EnteredWith.append {start : LoanDesk} {visits : List Visit} {id : LoanId}
    {principal : Money} (entered : start.EnteredWith visits id principal) (more : List Visit) :
    start.EnteredWith (visits ++ more) id principal := by
  obtain ⟨before, visit, later, request, rounded, rfl, rest⟩ := entered
  exact ⟨before, visit, later ++ more, request, rounded, by simp, rest⟩

/-- A desk whose tables are well formed and hold balanced loans only, each for a principal that it
was entered with. -/
structure Conserves (config : LoanConfig) (entered : LoanId → Money → Prop) (desk : LoanDesk) :
    Prop where
  config_eq : desk.config = config
  wellFormed : desk.store.tables.WellFormed
  balanced : ∀ id loan, desk.store.tables.loan? id = some loan →
    ∃ principal, entered id principal ∧ principal.IsFundable ∧ loan.IsBalanced config principal

variable {config : LoanConfig} {entered : LoanId → Money → Prop} {desk : LoanDesk}

section Written

variable (valid : config.check = .ok ()) (conserves : desk.Conserves config entered)
include valid conserves

/-- What a planned change makes of its loan is balanced, for a new principal if it proposes one. -/
theorem Conserves.resulting {visit : Visit} {plan : TransitionPlan} (bounded : visit.IsBounded)
    (plans : desk.Plans visit.occasion visit.request plan)
    (allowed : desk.store.tables.obstacle? plan.mutation.change = none) {stamp : Attestation}
    {loan : Loan}
    (results : plan.mutation.change.resulting stamp
      (desk.store.tables.loan? visit.loanId) = some loan) :
    ∃ principal, (entered visit.loanId principal ∨ ∃ request rounded,
        visit.request = .propose request ∧ request.principal.rounded = .ok rounded ∧
          principal = rounded.value) ∧
      principal.IsFundable ∧ loan.IsBalanced config principal := by
  obtain ⟨occasion, request⟩ := visit
  have turn := Tables.obstacle?_eq_none_iff.mp allowed
  rw [plans.loanId_eq] at turn
  cases plans with
  | @propose request rounded schedule checked rounds positive schedules =>
      cases results
      rw [conserves.config_eq] at schedules
      have fundable := bounded.isFundable rfl rounds positive
      have repays : (schedule.borrower request.borrower occasion).Repays config rounded.value :=
        borrower_repays valid fundable schedules rfl rfl
      exact ⟨rounded.value, Or.inr ⟨request, rounded, rfl, rounds, rfl⟩, fundable,
        Loan.isBalanced_entered repays _ stamp⟩
  | approve checked =>
      obtain ⟨stored, found, state⟩ := Option.map_eq_some_iff.mp turn
      obtain ⟨principal, origin, fundable, balanced⟩ := conserves.balanced _ _ found
      rw [found] at results
      cases results
      refine ⟨principal, Or.inl origin, fundable, balanced.of_parties_eq rfl ?_ ?_⟩
      · intro _
        rw [state]
        decide
      · intro (come : LoanState.invested ≤ .approved)
        exact absurd come (by decide)
  | @invest request offers warnings read principalRead allocation checked rounds loads approved
      draws allocates =>
      obtain ⟨stored, found, state⟩ := Option.map_eq_some_iff.mp turn
      -- the loan that was read before is the one that the investment is written to
      cases found.symm.trans (Store.loan?_of_load conserves.wellFormed loads)
      obtain ⟨principal, origin, fundable, balanced⟩ := conserves.balanced _ _ found
      obtain ⟨places, _, positive, _⟩ := id fundable
      obtain ⟨expected, drawsEq, currencyEq, amountEq⟩ := balanced.principal?_eq positive
      cases draws.symm.trans drawsEq
      rw [conserves.config_eq] at allocates
      obtain ⟨lend, some, total⟩ := invested_lenders occasion.partyIds valid fundable currencyEq
        amountEq (fun offer member => roundedOffers_positive rounds member) allocates
      have early : read.state ≤ .approved := by
        rw [state]
        decide
      rw [found] at results
      cases results
      exact ⟨principal, Or.inl origin, fundable, balanced.invest early lend some total stamp⟩
  | disburse checked =>
      obtain ⟨stored, found, state⟩ := Option.map_eq_some_iff.mp turn
      obtain ⟨principal, origin, fundable, balanced⟩ := conserves.balanced _ _ found
      rw [found] at results
      cases results
      refine ⟨principal, Or.inl origin, fundable, balanced.of_parties_eq rfl ?_ ?_⟩
      · intro (come : LoanState.disbursed ≤ .approved)
        exact absurd come (by decide)
      · intro _
        rw [state]
        decide

/-- A visit keeps all loans balanced, and a loan that it enters is balanced for the principal that
it proposes. -/
theorem Conserves.after {visit : Visit} (bounded : visit.IsBounded)
    (received : desk.Receives visit) :
    (desk.after visit).Conserves config fun id principal => entered id principal ∨
      visit.loanId = id ∧ desk.store.tables.loan? id = none ∧
        (desk.after visit).store.tables.loan? id ≠ none ∧ ∃ request rounded,
          visit.request = .propose request ∧ request.principal.rounded = .ok rounded ∧
            principal = rounded.value := by
  constructor
  · rw [after_config, conserves.config_eq]
  · exact wellFormed_after conserves.wellFormed received
  · intro id loan stored
    rcases after_cases received with unchanged | ⟨plan, plans, allowed, fresh, written⟩
    · rw [unchanged] at stored
      obtain ⟨principal, origin, rest⟩ := conserves.balanced id loan stored
      exact ⟨principal, Or.inl origin, rest⟩
    · have found := conserves.wellFormed.loan?_write allowed fresh
        (desk.store.signer.stampAt plan.mutation.time) id
      have storedHere := stored
      rw [written, LoanDesk.written, found] at storedHere
      by_cases own : id = plan.mutation.change.loanId
      · rw [if_pos own] at storedHere
        rw [plans.loanId_eq] at own
        subst own
        obtain ⟨principal, origin, rest⟩ :=
          conserves.resulting valid bounded plans allowed storedHere
        refine ⟨principal, ?_, rest⟩
        rcases origin with before | ⟨request, rounded, proposes, origin⟩
        · exact Or.inl before
        · right
          refine ⟨rfl, ?_, by simp [stored], request, rounded, proposes, origin⟩
          have absent := received.loan_fresh request proposes
          have idEq : visit.loanId = visit.occasion.loanId := by
            unfold Visit.loanId
            rw [proposes]
          rw [Tables.loan?_eq_none_iff, idEq, absent]
      · rw [if_neg own] at storedHere
        obtain ⟨principal, origin, rest⟩ := conserves.balanced id loan storedHere
        exact ⟨principal, Or.inl origin, rest⟩

end Written

/-- Every run keeps all loans balanced for the principals that they were entered with. -/
theorem conserves_run {signer : AuditSigner} {start : LoanDesk}
    (opened : new config (.empty signer) = .ok start) (visits : List Visit)
    (admitted : start.Admits visits) (bounded : ∀ visit ∈ visits, visit.IsBounded) :
    (start.run visits).Conserves config (start.EnteredWith visits) := by
  obtain ⟨valid, startEq⟩ := new_eq_ok_iff.mp opened
  induction visits using List.reverseRecOn with
  | nil =>
      rw [run_nil, startEq]
      constructor
      · rfl
      · exact Tables.wellFormed_empty
      · intro id loan found
        have none : Tables.empty.loan? id = none := Tables.loan?_empty id
        cases none.symm.trans found
  | append_singleton visits visit ih =>
      obtain ⟨before, received, _⟩ := admits_append.mp admitted
      have boundedBefore := fun other member =>
        bounded other (List.mem_append_left [visit] member)
      have conserves := ih before boundedBefore
      have next := conserves.after valid
        (bounded visit (List.mem_append_right visits (List.mem_singleton_self visit))) received
      rw [run_append, run_cons, run_nil]
      refine ⟨next.config_eq, next.wellFormed, ?_⟩
      intro id loan found
      obtain ⟨principal, origin, rest⟩ := next.balanced id loan found
      refine ⟨principal, ?_, rest⟩
      rcases origin with earlier | ⟨idEq, absent, present, request, rounded, proposes, rounds, same⟩
      · exact earlier.append [visit]
      · exact ⟨visits, visit, [], request, rounded, rfl, proposes, idEq, absent, present, rounds,
          same⟩

/-- Funds are conserved over every run of visits at a new desk.  Every stored loan can be read, and
whatever is read is balanced for the principal that it was proposed with. -/
theorem funds_conserved {signer : AuditSigner} {start : LoanDesk}
    (opened : new config (.empty signer) = .ok start) (visits : List Visit)
    (admitted : start.Admits visits) (bounded : ∀ visit ∈ visits, visit.IsBounded) :
    let tables := (start.run visits).store.tables
    (∀ record ∈ tables.loans,
      ∃ loan, Loan.ofRows (tables.join (.byLoan record.id)) = [loan] ∧ loan.id = record.id) ∧
    ∀ filter, ∀ loan ∈ Loan.ofRows (tables.join filter), ∃ principal,
      start.EnteredWith visits loan.id principal ∧ loan.IsBalanced config principal := by
  have conserves := conserves_run opened visits admitted bounded
  constructor
  · intro record member
    have found := conserves.wellFormed.find?_of_mem member
    refine ⟨_, ?_, Tables.aggregate_id (start.run visits).store.tables record⟩
    rw [conserves.wellFormed.ofRows_join_byLoan, Tables.loan?, found]
    rfl
  · intro filter loan member
    obtain ⟨stored, _⟩ := conserves.wellFormed.mem_ofRows_join.mp member
    obtain ⟨principal, origin, _, balanced⟩ := conserves.balanced loan.id loan stored
    exact ⟨principal, origin, balanced⟩

/-- A loan of one dollar from its proposal to its disbursement, with one lender. -/
def fundedRun : List Visit :=
  let loan : LoanId := .ofClock 0 1
  let occasion (first : Nat) : Occasion :=
    ⟨Store.newYear, loan, fun index => .ofClock 1 (first + index)⟩
  let dollar : Money := ⟨"USD", .one, Store.newYear, ""⟩
  [⟨occasion 0, .propose ⟨⟨"borrower"⟩, dollar⟩⟩,
    ⟨occasion 1, .approve ⟨loan, ⟨"clerk"⟩, "minutes"⟩⟩,
    ⟨occasion 1, .invest ⟨loan, [⟨⟨"lender"⟩, none, dollar⟩]⟩⟩,
    ⟨occasion 2, .disburse ⟨loan, ⟨"clerk"⟩, "contract"⟩⟩]

theorem funds_conserved_fundedRun :
    let signer := AuditSigner.ofSeed (List.replicate 32 7)
    ∃ start, new .standard (.empty signer) = .ok start ∧ start.Admits fundedRun ∧
      (∀ visit ∈ fundedRun, visit.IsBounded) ∧
      let tables := (start.run fundedRun).store.tables
      (∀ record ∈ tables.loans,
        ∃ loan, Loan.ofRows (tables.join (.byLoan record.id)) = [loan] ∧ loan.id = record.id) ∧
      ∀ filter, ∀ loan ∈ Loan.ofRows (tables.join filter), ∃ principal,
        start.EnteredWith fundedRun loan.id principal ∧ loan.IsBalanced .standard principal := by
  intro signer
  let start : LoanDesk := ⟨.standard, .empty signer⟩
  have opened : new .standard (.empty signer) = .ok start := new_standard _
  have admitted : start.Admits fundedRun := by
    have proposes : start.Receives fundedRun[0] := ⟨fun _ _ => rfl, by decide +kernel⟩
    have proposed := wellFormed_after Tables.wellFormed_empty proposes
    have approves : (start.after fundedRun[0]).Receives fundedRun[1] :=
      receives_of_partyCount_eq_zero proposed rfl
    have approved := wellFormed_after proposed approves
    have invests : ((start.after fundedRun[0]).after fundedRun[1]).Receives fundedRun[2] := by
      constructor
      · intro request proposal
        cases proposal
      · decide +kernel
    have invested := wellFormed_after approved invests
    exact ⟨proposes, approves, invests, receives_of_partyCount_eq_zero invested rfl, trivial⟩
  have bounded : ∀ visit ∈ fundedRun, visit.IsBounded := by
    intro visit member request proposes rounded places rounds known
    simp only [fundedRun, List.mem_cons, List.not_mem_nil, or_false] at member
    rcases member with rfl | rfl | rfl | rfl
    · cases proposes
      obtain ⟨_, roundedKnown, rfl⟩ := Money.rounded_eq_ok_iff.mp rounds
      cases roundedKnown.symm.trans known
      have two : Money.precision ⟨"USD", .one, Store.newYear, ""⟩ = .ok 2 := by decide +kernel
      cases two.symm.trans known
      decide +kernel
    · cases proposes
    · cases proposes
    · cases proposes
  exact ⟨start, opened, admitted, bounded, funds_conserved opened fundedRun admitted bounded⟩

end LoanDesk

end LoanBook
