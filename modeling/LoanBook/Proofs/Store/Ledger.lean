import LoanBook.Proofs.Store.Answers

/-!
# The store as a ledger of whole loans

The three tables behave like a map from identifiers to whole loans.  This file defines that map
with its mutations and proves that every run of mutations in which no party identifier is submitted
twice keeps the two in step: queries and mutations of the store are answered from the map.
-/

namespace LoanBook

/-- The state in which a loan waits for a change; a proposal must find no loan. -/
def LoanChange.awaited : LoanChange → Option LoanState
  | propose _ => none
  | approve _ _ _ => some .proposed
  | invest _ _ => some .approved
  | disburse _ _ _ => some .invested

theorem LoanChange.required?_eq_awaited (change : LoanChange) :
    change.required? = change.awaited := by
  cases change <;> rfl

/-- The identifiers of the parties that a mutation submits. -/
def LoanMutation.partyIds (mutation : LoanMutation) : List PartyId :=
  mutation.change.parties.map LoanParty.id

/-- Whole loans under their identifiers. -/
abbrev Ledger := LoanId → Option Loan

namespace Ledger

/-- A ledger without loans. -/
def empty : Ledger := fun _ => none

/-- A change may be made when its loan waits for it, or is not there for a proposal. -/
def Admits (ledger : Ledger) (change : LoanChange) : Prop :=
  (ledger change.loanId).map Loan.state = change.awaited

instance (ledger : Ledger) (change : LoanChange) : Decidable (ledger.Admits change) :=
  inferInstanceAs (Decidable (_ = _))

/-- The ledger after a mutation, which changes nothing when it may not be made. -/
def after (signer : AuditSigner) (ledger : Ledger) (mutation : LoanMutation) : Ledger :=
  if ledger.Admits mutation.change then
    Function.update ledger mutation.change.loanId
      (mutation.change.resulting (signer.stampAt mutation.time) (ledger mutation.change.loanId))
  else ledger

/-- The ledger after mutations of the empty one. -/
def run (signer : AuditSigner) (mutations : List LoanMutation) : Ledger :=
  mutations.foldl (after signer) empty

/-- Why a change may not be made. -/
def refusal (ledger : Ledger) (change : LoanChange) : LoanError :=
  match change.awaited, ledger change.loanId with
  | none, _ => .storage (.alreadyExists change.loanId)
  | some _, none => .loanNotFound change.loanId
  | some awaited, some _ => .stateConflict change.loanId awaited

/-- The loans of the ledger that a filter picks, each once, in the order of their identifiers. -/
def Lists (ledger : Ledger) (filter : LoanFilter) (loans : List Loan) : Prop :=
  loans.Pairwise (fun left right => left.id < right.id) ∧
    ∀ loan, loan ∈ loans ↔ ledger loan.id = some loan ∧ filter.Picks loan

/-- A query is answered with the loans that the ledger lists, if all of them verify. -/
def AnswersQuery (ledger : Ledger) (signer : AuditSigner) (filter : LoanFilter)
    (answer : Except Failure (List Loan)) : Prop :=
  ∃ loans, ledger.Lists filter loans ∧
    ((∀ loan ∈ loans, loan.VerifiesUnder signer) → answer = .ok loans) ∧
    ((∃ loan ∈ loans, ¬ loan.VerifiesUnder signer) →
      ∃ fault, answer = reject (.invalidSignature fault))

/-- A mutation is answered with the loan that it leaves in the ledger, if that verifies, or with
the reason why it may not be made. -/
def AnswersMutation (ledger : Ledger) (signer : AuditSigner) (mutation : LoanMutation)
    (answer : Except Failure Loan) : Prop :=
  (¬ ledger.Admits mutation.change → answer = reject (ledger.refusal mutation.change)) ∧
    (ledger.Admits mutation.change →
      ∃ loan, ledger.after signer mutation mutation.change.loanId = some loan ∧
        (loan.VerifiesUnder signer → answer = .ok loan) ∧
        (¬ loan.VerifiesUnder signer → ∃ fault, answer = reject (.invalidSignature fault)))

theorem exists_resulting {ledger : Ledger} {change : LoanChange} (admitted : ledger.Admits change)
    (stamp : Attestation) :
    ∃ loan, change.resulting stamp (ledger change.loanId) = some loan := by
  have present : (ledger change.loanId).map Loan.state = change.awaited := admitted
  cases change with
  | propose loan => exact ⟨loan.entered stamp, rfl⟩
  | approve loan approvedBy document =>
      obtain ⟨stored, found, _⟩ := Option.map_eq_some_iff.mp present
      exact ⟨_, by rw [found]; rfl⟩
  | invest loan lenders =>
      obtain ⟨stored, found, _⟩ := Option.map_eq_some_iff.mp present
      exact ⟨_, by rw [found]; rfl⟩
  | disburse loan disbursedBy contract =>
      obtain ⟨stored, found, _⟩ := Option.map_eq_some_iff.mp present
      exact ⟨_, by rw [found]; rfl⟩

end Ledger

namespace Store

/-- The store after mutations of the empty one. -/
def run (signer : AuditSigner) (mutations : List LoanMutation) : Store :=
  mutations.foldl (fun store mutation => (store.mutate mutation).1) (empty signer)

/-- A store in step with a ledger: its tables are well formed and spell the loans of the ledger,
and its parties are among those submitted. -/
structure Represents (store : Store) (signer : AuditSigner) (ledger : Ledger)
    (submitted : List PartyId) : Prop where
  signer_eq : store.signer = signer
  wellFormed : store.tables.WellFormed
  loan?_eq : store.tables.loan? = ledger
  partyIds_subset : store.tables.partyIds ⊆ submitted

variable {store : Store} {signer : AuditSigner} {ledger : Ledger} {submitted : List PartyId}

theorem represents_empty (signer : AuditSigner) :
    (empty signer).Represents signer Ledger.empty [] where
  signer_eq := rfl
  wellFormed := Tables.wellFormed_empty
  loan?_eq := funext Tables.loan?_empty
  partyIds_subset := List.Subset.refl _

section Represents

variable (represents : store.Represents signer ledger submitted)
include represents

theorem Represents.admits_iff {change : LoanChange} :
    ledger.Admits change ↔ store.tables.obstacle? change = none := by
  rw [Tables.obstacle?_eq_none_iff, represents.loan?_eq, LoanChange.required?_eq_awaited]
  rfl

theorem Represents.isFresh {mutation : LoanMutation}
    (distinct : (submitted ++ mutation.partyIds).Nodup) :
    store.tables.IsFresh mutation.change := by
  rw [List.nodup_append'] at distinct
  obtain ⟨_, own, disjoint⟩ := distinct
  apply List.Nodup.append own represents.wellFormed.parties_nodup
  intro id ownMem stored
  exact disjoint (represents.partyIds_subset stored) ownMem

theorem Represents.refusal_eq {change : LoanChange} {error : LoanError}
    (blocked : store.tables.obstacle? change = some error) : error = ledger.refusal change := by
  have state := Tables.loan?_map_state store.tables change.loanId
  rw [represents.loan?_eq] at state
  unfold Tables.obstacle? at blocked
  rw [LoanChange.required?_eq_awaited] at blocked
  unfold Ledger.refusal
  cases found : store.tables.find? change.loanId with
  | none =>
      rw [found, Option.map_none, Option.map_eq_none_iff] at state
      cases awaits : change.awaited <;> simp_all
  | some record =>
      rw [found, Option.map_some, Option.map_eq_some_iff] at state
      obtain ⟨loan, stored, _⟩ := state
      cases awaits : change.awaited with
      | none => simp_all
      | some before =>
          rw [stored]
          by_cases same : record.state = before <;> simp_all

/-- A mutation keeps the store in step with the ledger. -/
theorem Represents.mutate {mutation : LoanMutation}
    (distinct : (submitted ++ mutation.partyIds).Nodup) :
    (store.mutate mutation).1.Represents signer (ledger.after signer mutation)
      (submitted ++ mutation.partyIds) := by
  have fresh := represents.isFresh distinct
  cases blocked : store.tables.obstacle? mutation.change with
  | some error =>
      have refused : ¬ ledger.Admits mutation.change := by
        rw [represents.admits_iff, blocked]
        simp
      rw [mutate_of_obstacle blocked, Ledger.after, if_neg refused]
      exact
        { signer_eq := represents.signer_eq
          wellFormed := represents.wellFormed
          loan?_eq := represents.loan?_eq
          partyIds_subset :=
            List.Subset.trans represents.partyIds_subset (List.subset_append_left _ _) }
  | none =>
      have admitted : ledger.Admits mutation.change := represents.admits_iff.mpr blocked
      rw [mutate_of_allowed blocked, Ledger.after, if_pos admitted]
      refine
        { signer_eq := represents.signer_eq
          wellFormed := represents.wellFormed.write blocked fresh _
          loan?_eq := ?_
          partyIds_subset := ?_ }
      · funext id
        rw [represents.wellFormed.loan?_write blocked fresh, represents.loan?_eq,
          represents.signer_eq, Function.update_apply]
        by_cases same : id = mutation.change.loanId
        · rw [if_pos same, if_pos same, same]
        · rw [if_neg same, if_neg same]
      · rw [Tables.partyIds_write]
        exact List.append_subset.mpr
          ⟨List.Subset.trans represents.partyIds_subset (List.subset_append_left _ _),
            List.subset_append_right _ _⟩

theorem Represents.answersQuery (filter : LoanFilter) :
    ledger.AnswersQuery signer filter (store.query filter) := by
  have members (loan : Loan) : loan ∈ Loan.ofRows (store.tables.join filter) ↔
      ledger loan.id = some loan ∧ filter.Picks loan := by
    rw [represents.wellFormed.mem_ofRows_join, represents.loan?_eq]
  refine ⟨Loan.ofRows (store.tables.join filter),
    ⟨represents.wellFormed.pairwise_ofRows_join filter, members⟩, ?_, ?_⟩
  · intro verified
    rw [← represents.signer_eq] at verified
    exact query_of_verifies verified
  · rintro ⟨loan, member, unverified⟩
    rw [← represents.signer_eq] at unverified
    exact query_of_not_verifies member unverified

theorem Represents.answersMutation {mutation : LoanMutation}
    (distinct : (submitted ++ mutation.partyIds).Nodup) :
    ledger.AnswersMutation signer mutation (store.mutate mutation).2 := by
  have kept := represents.mutate distinct
  constructor
  · intro refused
    rw [represents.admits_iff] at refused
    obtain ⟨error, blocked⟩ := Option.ne_none_iff_exists'.mp refused
    rw [mutate_of_obstacle blocked, represents.refusal_eq blocked]
  · intro admitted
    have allowed := represents.admits_iff.mp admitted
    have left : ledger.after signer mutation mutation.change.loanId =
        mutation.change.resulting (signer.stampAt mutation.time)
          (ledger mutation.change.loanId) := by
      rw [Ledger.after, if_pos admitted, Function.update_self]
    obtain ⟨loan, resulting⟩ := Ledger.exists_resulting admitted (signer.stampAt mutation.time)
    rw [mutate_of_allowed allowed] at kept ⊢
    have stored := congrFun kept.loan?_eq mutation.change.loanId
    rw [left, resulting] at stored
    refine ⟨loan, left.trans resulting, ?_, ?_⟩
    · intro verified
      rw [← kept.signer_eq] at verified
      exact load_of_verifies kept.wellFormed stored verified
    · intro unverified
      rw [← kept.signer_eq] at unverified
      exact load_of_not_verifies kept.wellFormed stored unverified

end Represents

/-- A run of mutations keeps the store in step with the ledger. -/
theorem represents_run (signer : AuditSigner) (mutations : List LoanMutation)
    (distinct : (mutations.flatMap LoanMutation.partyIds).Nodup) :
    (run signer mutations).Represents signer (Ledger.run signer mutations)
      (mutations.flatMap LoanMutation.partyIds) := by
  induction mutations using List.reverseRecOn with
  | nil => exact represents_empty signer
  | append_singleton mutations mutation ih =>
      rw [List.flatMap_append, List.flatMap_singleton] at distinct ⊢
      have before := ih (distinct.sublist (List.sublist_append_left _ _))
      rw [run, Ledger.run, List.foldl_append, List.foldl_append]
      exact before.mutate distinct

/-- After every run of mutations in which no party identifier is submitted twice, the store answers
every query and every further such mutation as the ledger of whole loans does. -/
theorem answers_as_ledger (signer : AuditSigner) (mutations : List LoanMutation)
    (distinct : (mutations.flatMap LoanMutation.partyIds).Nodup) :
    (∀ filter, (Ledger.run signer mutations).AnswersQuery signer filter
      ((run signer mutations).query filter)) ∧
    ∀ mutation, (mutations.flatMap LoanMutation.partyIds ++ mutation.partyIds).Nodup →
      (Ledger.run signer mutations).AnswersMutation signer mutation
        ((run signer mutations).mutate mutation).2 := by
  have represents := represents_run signer mutations distinct
  constructor
  · intro filter
    exact represents.answersQuery filter
  · intro mutation next
    exact represents.answersMutation next

/-- The first instant of 2024. -/
def newYear : Calendar.Instant :=
  (Calendar.Instant.ofUnixSeconds? 1704067200).get (by decide +kernel)

/-- A loan proposed twice, approved, and invested in by two lenders. -/
def fundingRun : List LoanMutation :=
  let loan : LoanId := .ofClock 0 1
  let party (count : Nat) (role : PartyRole) : LoanParty :=
    ⟨.ofClock 0 count, ⟨"party"⟩, role, [⟨"USD", .one, newYear, "", none⟩], none⟩
  [⟨.propose (.proposed loan (party 2 .borrower)), newYear⟩,
    ⟨.propose (.proposed loan (party 3 .borrower)), newYear⟩,
    ⟨.approve loan ⟨"clerk"⟩ "minutes", newYear⟩,
    ⟨.invest loan [party 4 .lender, party 5 .lender], newYear⟩]

theorem answers_as_ledger_fundingRun :
    (fundingRun.flatMap LoanMutation.partyIds).Nodup ∧
      let signer := AuditSigner.ofSeed (List.replicate 32 7)
      (∀ filter, (Ledger.run signer fundingRun).AnswersQuery signer filter
        ((run signer fundingRun).query filter)) ∧
      ∀ mutation, (fundingRun.flatMap LoanMutation.partyIds ++ mutation.partyIds).Nodup →
        (Ledger.run signer fundingRun).AnswersMutation signer mutation
          ((run signer fundingRun).mutate mutation).2 := by
  have distinct : (fundingRun.flatMap LoanMutation.partyIds).Nodup := by decide
  exact ⟨distinct, answers_as_ledger (AuditSigner.ofSeed (List.replicate 32 7)) fundingRun distinct⟩

end Store

end LoanBook
