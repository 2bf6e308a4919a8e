import LoanBook.LoanState
import LoanBook.Proofs.Store.Answers

/-!
# What is written about a loan

A change in its turn moves a loan one state on and adds to what is written about it: parties,
sign-offs and their attestations, each written once.  The state of a loan tells which sign-offs it
has, and all attestations on it are stamps of one signer.
-/

namespace LoanBook

namespace Loan

/-- The sign-offs of a loan are those that its state tells of, and all attestations on it, its own
among them, are stamps of the signer. -/
structure IsAttestedBy (signer : AuditSigner) (loan : Loan) : Prop where
  created : loan.created.isSome
  approval_iff : loan.approval.isSome ↔ .approved ≤ loan.state
  disbursement_iff : loan.disbursement.isSome ↔ loan.state = .disbursed
  stamped : ∀ attestation, loan.Carries attestation → ∃ time, attestation = signer.stampAt time

/-- A later form of a loan: it has come further, and everything on it was written once. -/
structure Continues (earlier later : Loan) : Prop where
  id_eq : later.id = earlier.id
  state_le : earlier.state ≤ later.state
  created_eq : later.created = earlier.created
  parties_prefix : earlier.parties <+: later.parties
  parties_eq : .invested ≤ earlier.state → later.parties = earlier.parties
  approval_eq : .approved ≤ earlier.state → later.approval = earlier.approval
  disbursement_eq : .disbursed ≤ earlier.state → later.disbursement = earlier.disbursement

theorem Continues.refl (loan : Loan) : loan.Continues loan where
  id_eq := rfl
  state_le := loan.state.le_refl
  created_eq := rfl
  parties_prefix := List.prefix_refl _
  parties_eq _ := rfl
  approval_eq _ := rfl
  disbursement_eq _ := rfl

theorem Continues.trans {first second third : Loan} (start : first.Continues second)
    (next : second.Continues third) : first.Continues third where
  id_eq := next.id_eq.trans start.id_eq
  state_le := LoanState.le_trans start.state_le next.state_le
  created_eq := next.created_eq.trans start.created_eq
  parties_prefix := start.parties_prefix.trans next.parties_prefix
  parties_eq come :=
    (next.parties_eq (LoanState.le_trans come start.state_le)).trans (start.parties_eq come)
  approval_eq come :=
    (next.approval_eq (LoanState.le_trans come start.state_le)).trans (start.approval_eq come)
  disbursement_eq come :=
    (next.disbursement_eq (LoanState.le_trans come start.state_le)).trans
      (start.disbursement_eq come)

theorem IsAttestedBy.verifies {signer : AuditSigner} {loan : Loan}
    (attested : loan.IsAttestedBy signer) (sound : signer.IsSound) : loan.VerifiesUnder signer := by
  intro attestation carried
  obtain ⟨time, rfl⟩ := attested.stamped attestation carried
  exact sound time

end Loan

/-- What one visit may do to what is stored under an identifier. -/
inductive LoanStep : Option Loan → Option Loan → Prop where
  | kept (stored : Option Loan) : LoanStep stored stored
  | entered {loan : Loan} (proposed : loan.state = .proposed) : LoanStep none (some loan)
  | advanced {earlier later : Loan} (precedes : later.state.predecessor = some earlier.state)
      (continues : earlier.Continues later) : LoanStep (some earlier) (some later)

theorem LoanStep.exists_continues {earlier : Loan} {stored : Option Loan}
    (step : LoanStep (some earlier) stored) :
    ∃ later, stored = some later ∧ earlier.Continues later := by
  cases step with
  | kept => exact ⟨earlier, rfl, .refl earlier⟩
  | advanced precedes continues => exact ⟨_, rfl, continues⟩

namespace LoanChange

variable {change : LoanChange} {stamp : Attestation} {stored : Option Loan}

/-- A change in its turn moves the loan into its target, one step on. -/
theorem resulting_step (turn : stored.map Loan.state = change.required?) :
    ∃ loan, change.resulting stamp stored = some loan ∧ loan.state = change.target ∧
      LoanStep stored (some loan) := by
  cases change with
  | propose loan =>
      have absent : stored = none := Option.map_eq_none_iff.mp turn
      subst absent
      exact ⟨_, rfl, rfl, .entered rfl⟩
  | approve id approvedBy document =>
      obtain ⟨loan, rfl, state⟩ := Option.map_eq_some_iff.mp turn
      have precedes : LoanState.approved.predecessor = some loan.state := congrArg some state.symm
      exact ⟨_, rfl, rfl, .advanced precedes
        { id_eq := rfl
          state_le := LoanState.le_of_predecessor precedes
          created_eq := rfl
          parties_prefix := List.prefix_refl _
          parties_eq := fun _ => rfl
          approval_eq := fun come => absurd (state ▸ come) (by decide)
          disbursement_eq := fun _ => rfl }⟩
  | invest id lenders =>
      obtain ⟨loan, rfl, state⟩ := Option.map_eq_some_iff.mp turn
      have precedes : LoanState.invested.predecessor = some loan.state := congrArg some state.symm
      exact ⟨_, rfl, rfl, .advanced precedes
        { id_eq := rfl
          state_le := LoanState.le_of_predecessor precedes
          created_eq := rfl
          parties_prefix := List.prefix_append _ _
          parties_eq := fun come => absurd (state ▸ come) (by decide)
          approval_eq := fun _ => rfl
          disbursement_eq := fun _ => rfl }⟩
  | disburse id disbursedBy contract =>
      obtain ⟨loan, rfl, state⟩ := Option.map_eq_some_iff.mp turn
      have precedes : LoanState.disbursed.predecessor = some loan.state := congrArg some state.symm
      exact ⟨_, rfl, rfl, .advanced precedes
        { id_eq := rfl
          state_le := LoanState.le_of_predecessor precedes
          created_eq := rfl
          parties_prefix := List.prefix_refl _
          parties_eq := fun _ => rfl
          approval_eq := fun _ => rfl
          disbursement_eq := fun come => absurd (state ▸ come) (by decide) }⟩

/-- A party written with a stamp carries no attestation but the stamp. -/
theorem eq_of_carries_stamped {parties : List LoanParty} {party : LoanParty}
    {attestation : Attestation} (listed : party ∈ parties.map (LoanParty.stamped stamp))
    (carried : party.Carries attestation) : attestation = stamp := by
  obtain ⟨unstamped, _, rfl⟩ := List.mem_map.mp listed
  cases carried with
  | created own => exact (Option.some.inj own).symm
  | payment paid created =>
      obtain ⟨payment, _, rfl⟩ := List.mem_map.mp paid
      exact (Option.some.inj created).symm

/-- A change adds no attestation but its stamp. -/
theorem carries_of_resulting {loan : Loan} {attestation : Attestation}
    (unsigned : ∀ proposed, change = .propose proposed →
      proposed.approval = none ∧ proposed.disbursement = none)
    (results : change.resulting stamp stored = some loan) (carried : loan.Carries attestation) :
    attestation = stamp ∨ ∃ earlier, stored = some earlier ∧ earlier.Carries attestation := by
  cases change with
  | propose proposed =>
      left
      obtain ⟨noApproval, noDisbursement⟩ := unsigned proposed rfl
      cases results
      cases carried with
      | created own => exact (Option.some.inj own).symm
      | approval approved => cases noApproval.symm.trans approved
      | disbursement disbursed => cases noDisbursement.symm.trans disbursed
      | party listed carried => exact eq_of_carries_stamped listed carried
  | approve id approvedBy document =>
      obtain ⟨earlier, rfl, rfl⟩ := Option.map_eq_some_iff.mp results
      cases carried with
      | created own => exact Or.inr ⟨earlier, rfl, .created own⟩
      | approval approved attested =>
          cases approved
          exact Or.inl (Option.some.inj attested).symm
      | disbursement disbursed attested =>
          exact Or.inr ⟨earlier, rfl, .disbursement disbursed attested⟩
      | party listed carried => exact Or.inr ⟨earlier, rfl, .party listed carried⟩
  | invest id lenders =>
      obtain ⟨earlier, rfl, rfl⟩ := Option.map_eq_some_iff.mp results
      cases carried with
      | created own => exact Or.inr ⟨earlier, rfl, .created own⟩
      | approval approved attested => exact Or.inr ⟨earlier, rfl, .approval approved attested⟩
      | disbursement disbursed attested =>
          exact Or.inr ⟨earlier, rfl, .disbursement disbursed attested⟩
      | party listed carried =>
          rcases List.mem_append.mp listed with kept | lender
          · exact Or.inr ⟨earlier, rfl, .party kept carried⟩
          · exact Or.inl (eq_of_carries_stamped lender carried)
  | disburse id disbursedBy contract =>
      obtain ⟨earlier, rfl, rfl⟩ := Option.map_eq_some_iff.mp results
      cases carried with
      | created own => exact Or.inr ⟨earlier, rfl, .created own⟩
      | approval approved attested => exact Or.inr ⟨earlier, rfl, .approval approved attested⟩
      | disbursement disbursed attested =>
          cases disbursed
          exact Or.inl (Option.some.inj attested).symm
      | party listed carried => exact Or.inr ⟨earlier, rfl, .party listed carried⟩

/-- A change in its turn, of a loan or for a new loan without sign-offs, leaves the loan attested by
the signer of its stamp. -/
theorem resulting_isAttested {signer : AuditSigner} {time : Calendar.Instant} {loan : Loan}
    (turn : stored.map Loan.state = change.required?)
    (unsigned : ∀ proposed, change = .propose proposed →
      proposed.approval = none ∧ proposed.disbursement = none)
    (before : ∀ earlier, stored = some earlier → earlier.IsAttestedBy signer)
    (results : change.resulting (signer.stampAt time) stored = some loan) :
    loan.IsAttestedBy signer := by
  have stamped (attestation : Attestation) (carried : loan.Carries attestation) :
      ∃ time, attestation = signer.stampAt time := by
    rcases carries_of_resulting unsigned results carried with own | ⟨earlier, found, kept⟩
    · exact ⟨time, own⟩
    · exact (before earlier found).stamped attestation kept
  cases change with
  | propose proposed =>
      obtain ⟨noApproval, noDisbursement⟩ := unsigned proposed rfl
      cases results
      refine ⟨rfl, ?_, ?_, stamped⟩
      · simp [Loan.entered, noApproval, LoanState.le_def, LoanState.rank]
      · simp [Loan.entered, noDisbursement]
  | approve id approvedBy document =>
      obtain ⟨earlier, rfl, state⟩ := Option.map_eq_some_iff.mp turn
      have attested := before earlier rfl
      have undisbursed := attested.disbursement_iff
      cases results
      refine ⟨attested.created, ?_, ?_, stamped⟩
      · simp [LoanState.le_refl]
      · rw [state] at undisbursed
        simpa using undisbursed
  | invest id lenders =>
      obtain ⟨earlier, rfl, state⟩ := Option.map_eq_some_iff.mp turn
      have attested := before earlier rfl
      have approved := attested.approval_iff
      have undisbursed := attested.disbursement_iff
      cases results
      refine ⟨attested.created, ?_, ?_, stamped⟩
      · rw [state] at approved
        simpa [LoanState.le_def, LoanState.rank] using approved
      · rw [state] at undisbursed
        simpa using undisbursed
  | disburse id disbursedBy contract =>
      obtain ⟨earlier, rfl, state⟩ := Option.map_eq_some_iff.mp turn
      have attested := before earlier rfl
      have approved := attested.approval_iff
      cases results
      refine ⟨attested.created, ?_, ?_, stamped⟩
      · rw [state] at approved
        simpa [LoanState.le_def, LoanState.rank] using approved
      · simp

end LoanChange

end LoanBook
