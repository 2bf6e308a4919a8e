import LoanBook.Proofs.Store.Provenance

/-!
# Mutations that fail

A mutation that meets an obstacle writes nothing.  One that is written is read back, and everything
the store stamped verifies; so it can fail only for a sign-off that a proposal brought along with an
attestation that the signer refuses.  Then the rows are written and stay, although the answer is an
error, and the loan cannot be read.
-/

namespace LoanBook

/-- The attestations of the sign-offs of a loan. -/
def Loan.signOffAttestations (loan : Loan) : List Attestation :=
  (loan.approval.bind Approval.attested).toList ++
    (loan.disbursement.bind Disbursement.attested).toList

/-- An attestation on a sign-off of the loan is refused by the signer. -/
def Loan.HasRefusedSignOff (signer : AuditSigner) (loan : Loan) : Prop :=
  ∃ attestation ∈ loan.signOffAttestations, signer.check attestation ≠ .ok ()

theorem Loan.mem_signOffAttestations_iff {loan : Loan} {attestation : Attestation} :
    attestation ∈ loan.signOffAttestations ↔
      (∃ approval, loan.approval = some approval ∧ approval.attested = some attestation) ∨
        ∃ disbursement, loan.disbursement = some disbursement ∧
          disbursement.attested = some attestation := by
  simp only [signOffAttestations, List.mem_append, Option.mem_toList, Option.bind_eq_some_iff]

theorem Loan.carries_of_mem_signOffAttestations {loan : Loan} {attestation : Attestation}
    (member : attestation ∈ loan.signOffAttestations) : loan.Carries attestation := by
  rcases mem_signOffAttestations_iff.mp member with
    ⟨approval, approved, attested⟩ | ⟨disbursement, disbursed, attested⟩
  · exact .approval approved attested
  · exact .disbursement disbursed attested

section Traced

variable {signer : AuditSigner} {wrote : LoanMutation → Prop}

theorem LoanParty.IsTracedTo.stamped {id : LoanId} {party : LoanParty} {attestation : Attestation}
    (traced : party.IsTracedTo signer wrote id) (carried : party.Carries attestation) :
    ∃ time, attestation = signer.stampAt time := by
  cases carried with
  | created own =>
      obtain ⟨mutation, _, submitted, _, columns⟩ := traced.columns
      have created : party.created = some (signer.stampAt mutation.time) :=
        congrArg PartyRecord.created columns
      exact ⟨mutation.time, Option.some.inj (own.symm.trans created)⟩
  | @payment payment listed created =>
      obtain ⟨mutation, _, submitted, _, unstamped, _, entry⟩ := traced.payments payment listed
      rw [(Prod.mk.inj entry).2] at created
      exact ⟨mutation.time, (Option.some.inj created).symm⟩

/-- An attestation on a traced loan is a stamp, or came with a sign-off of its proposal. -/
theorem LoanRecord.IsTracedTo.stamped_or_mem {loan proposal : Loan} {attestation : Attestation}
    (traced : (LoanRecord.ofLoan loan).IsTracedTo signer wrote proposal)
    (parties : ∀ party ∈ loan.parties, party.IsTracedTo signer wrote loan.id)
    (carried : loan.Carries attestation) :
    (∃ time, attestation = signer.stampAt time) ∨ attestation ∈ proposal.signOffAttestations := by
  rw [Loan.mem_signOffAttestations_iff]
  cases carried with
  | created own =>
      obtain ⟨time, _, created⟩ := traced.created
      exact Or.inl ⟨time, Option.some.inj (own.symm.trans created)⟩
  -- a sign-off is stamped when a mutation made it; the others came with the proposal
  | @approval approval approved attested =>
      rcases traced.approval approval approved with ⟨_, kept⟩ | ⟨time, _, stamp⟩
      · exact Or.inr (Or.inl ⟨approval, kept, attested⟩)
      · exact Or.inl ⟨time, Option.some.inj (attested.symm.trans stamp)⟩
  | @disbursement disbursement disbursed attested =>
      rcases traced.disbursement disbursement disbursed with ⟨_, kept⟩ | ⟨time, _, stamp⟩
      · exact Or.inr (Or.inr ⟨disbursement, kept, attested⟩)
      · exact Or.inl ⟨time, Option.some.inj (attested.symm.trans stamp)⟩
  | @party party listed carried => exact Or.inl ((parties party listed).stamped carried)

theorem LoanRecord.IsTracedTo.hasRefusedSignOff {loan proposal : Loan} (sound : signer.IsSound)
    (traced : (LoanRecord.ofLoan loan).IsTracedTo signer wrote proposal)
    (parties : ∀ party ∈ loan.parties, party.IsTracedTo signer wrote loan.id)
    (unverified : ¬ loan.VerifiesUnder signer) : proposal.HasRefusedSignOff signer := by
  simp only [Loan.VerifiesUnder, not_forall] at unverified
  obtain ⟨attestation, carried, refused⟩ := unverified
  rcases traced.stamped_or_mem parties carried with ⟨time, rfl⟩ | onProposal
  · exact (refused (sound time)).elim
  · exact ⟨attestation, onProposal, refused⟩

end Traced

namespace Store

variable {signer : AuditSigner} {mutations : List LoanMutation}

section Written

variable {mutation : LoanMutation}
  (allowed : (run signer mutations).tables.obstacle? mutation.change = none)
include allowed

theorem tables_run_of_allowed :
    (run signer (mutations ++ [mutation])).tables =
      (run signer mutations).tables.write (signer.stampAt mutation.time) mutation.change := by
  rw [run_append_singleton, mutate_of_allowed allowed, run_signer]

theorem answer_of_allowed :
    ((run signer mutations).mutate mutation).2 =
      (run signer (mutations ++ [mutation])).load mutation.change.loanId := by
  rw [run_append_singleton, mutate_of_allowed allowed]

/-- What a written mutation leaves is read back as one loan that the run explains. -/
theorem exists_read_of_allowed :
    let tables := (run signer (mutations ++ [mutation])).tables
    let wrote := Wrote signer (mutations ++ [mutation])
    ∃ loan proposal, Loan.ofRows (tables.join (.byLoan mutation.change.loanId)) = [loan] ∧
      tables.find? mutation.change.loanId = some (LoanRecord.ofLoan loan) ∧
      (LoanRecord.ofLoan loan).IsTracedTo signer wrote proposal ∧
      ∀ party ∈ loan.parties, party.IsTracedTo signer wrote loan.id := by
  have traced := isTraced_run signer (mutations ++ [mutation])
  have stored := Tables.loanId_mem_write allowed (signer.stampAt mutation.time)
  rw [← tables_run_of_allowed allowed] at stored
  obtain ⟨record, member, idEq⟩ := List.mem_map.mp stored
  obtain ⟨loan, read, same⟩ := traced.exists_read member
  obtain ⟨⟨proposal, origin⟩, parties⟩ :=
    traced.of_mem_ofRows_join (by rw [read]; exact List.mem_singleton_self loan)
  have found := Tables.find?_of_mem_of_nodup traced.loans_nodup member
  rw [idEq] at read found
  rw [← same] at found
  exact ⟨loan, proposal, read, found, origin, parties⟩

theorem refused_of_failure {failure : Failure} (sound : signer.IsSound)
    (failed : ((run signer mutations).mutate mutation).2 = .error failure) :
    (∃ fault, failure = .rejected (.invalidSignature fault)) ∧
      ∃ proposal time, Wrote signer (mutations ++ [mutation]) ⟨.propose proposal, time⟩ ∧
        proposal.id = mutation.change.loanId ∧ proposal.HasRefusedSignOff signer := by
  obtain ⟨loan, proposal, read, found, origin, parties⟩ := exists_read_of_allowed allowed
  rw [answer_of_allowed allowed] at failed
  by_cases verified : loan.VerifiesUnder (run signer (mutations ++ [mutation])).signer
  · cases failed.symm.trans (load_of_read read verified)
  · obtain ⟨fault, refused⟩ := load_of_unverified_read read verified
    rw [run_signer] at verified
    obtain ⟨time, wrote, _⟩ := origin.created
    have proposalId : proposal.id = mutation.change.loanId :=
      origin.id_eq.symm.trans (Tables.id_of_find? found)
    exact ⟨⟨fault, Except.error.inj (failed.symm.trans refused)⟩, proposal, time, wrote, proposalId,
      origin.hasRefusedSignOff sound parties verified⟩

end Written

section RefusedProposal

variable {proposal : Loan} (absent : (run signer mutations).tables.find? proposal.id = none)
include absent

theorem obstacle?_propose_of_absent :
    (run signer mutations).tables.obstacle? (.propose proposal) = none := by
  rw [Tables.obstacle?_eq_none_iff, Tables.loan?_map_state]
  exact Option.map_eq_none_iff.mpr absent

theorem exists_read_of_propose (time : Calendar.Instant) :
    ∃ loan, Loan.ofRows ((run signer (mutations ++ [⟨.propose proposal, time⟩])).tables.join
        (.byLoan proposal.id)) = [loan] ∧
      loan.signOffAttestations = proposal.signOffAttestations := by
  let mutation : LoanMutation := ⟨.propose proposal, time⟩
  have allowed : (run signer mutations).tables.obstacle? mutation.change = none :=
    obstacle?_propose_of_absent absent
  obtain ⟨loan, _, read, found, _⟩ := exists_read_of_allowed allowed
  have entered := Tables.find?_write_propose absent (signer.stampAt mutation.time)
  rw [← tables_run_of_allowed allowed] at entered
  have columns := Option.some.inj (found.symm.trans entered)
  have approval : loan.approval = proposal.approval := congrArg LoanRecord.approval columns
  have disbursement : loan.disbursement = proposal.disbursement :=
    congrArg LoanRecord.disbursement columns
  refine ⟨loan, read, ?_⟩
  rw [Loan.signOffAttestations, approval, disbursement, Loan.signOffAttestations]

/-- A proposal that brings a refused sign-off along is written and then fails.  Before, its loan was
not there to be read; after, reading it is refused. -/
theorem failure_of_refused (refused : proposal.HasRefusedSignOff signer) (time : Calendar.Instant) :
    let store := run signer mutations
    store.query (.byLoan proposal.id) = .ok [] ∧
      let written := store.mutate ⟨.propose proposal, time⟩
      (∃ fault, written.2 = reject (.invalidSignature fault)) ∧
        ∃ fault, written.1.query (.byLoan proposal.id) = reject (.invalidSignature fault) := by
  let mutation : LoanMutation := ⟨.propose proposal, time⟩
  have allowed : (run signer mutations).tables.obstacle? mutation.change = none :=
    obstacle?_propose_of_absent absent
  obtain ⟨loan, read, kept⟩ := exists_read_of_propose absent time
  have unverified : ¬ loan.VerifiesUnder (run signer (mutations ++ [mutation])).signer := by
    obtain ⟨attestation, member, unrecognised⟩ := refused
    rw [← kept] at member
    rw [run_signer]
    intro verified
    exact unrecognised (verified attestation (Loan.carries_of_mem_signOffAttestations member))
  refine ⟨?_, ?_, ?_⟩
  · have none := Tables.join_byLoan_of_absent absent
    rw [query_of_verifies] <;> simp [none, Loan.ofRows]
  · obtain ⟨fault, loaded⟩ := load_of_unverified_read read unverified
    exact ⟨fault, (answer_of_allowed allowed).trans loaded⟩
  · rw [← run_append_singleton]
    exact query_of_not_verifies (by rw [read]; exact List.mem_singleton_self loan) unverified

end RefusedProposal

/-- An approval without a seal is refused by every signer who checks seals. -/
theorem hasRefusedSignOff_signedLoan {signer : AuditSigner}
    (refuses : signer.check ⟨0, []⟩ ≠ .ok ()) :
    (signedLoan (some ⟨0, []⟩)).HasRefusedSignOff signer :=
  ⟨⟨0, []⟩, List.mem_singleton_self _, refuses⟩

/-- Mutations are all or nothing but for sign-offs that a proposal brings along.  After every run of
mutations, under a signer who recognises its own stamps, a mutation that fails leaves the store as it
was, unless a proposal of its loan, which may be the mutation itself, was written with a sign-off
that the signer refuses; then the failure is an invalid signature.  And every proposal of a new loan
with such a sign-off fails although it is written. -/
theorem mutate_atomic_unless_refused {signer : AuditSigner} (sound : signer.IsSound)
    (mutations : List LoanMutation) :
    let store := run signer mutations
    (∀ mutation failure, (store.mutate mutation).2 = .error failure →
      (store.mutate mutation).1 = store ∨
        (∃ fault, failure = .rejected (.invalidSignature fault)) ∧
          ∃ proposal time, Wrote signer (mutations ++ [mutation]) ⟨.propose proposal, time⟩ ∧
            proposal.id = mutation.change.loanId ∧ proposal.HasRefusedSignOff signer) ∧
    ∀ proposal time, store.tables.find? proposal.id = none →
      proposal.HasRefusedSignOff signer →
        store.query (.byLoan proposal.id) = .ok [] ∧
          let written := store.mutate ⟨.propose proposal, time⟩
          (∃ fault, written.2 = reject (.invalidSignature fault)) ∧
            ∃ fault, written.1.query (.byLoan proposal.id) = reject (.invalidSignature fault) := by
  constructor
  · intro mutation failure failed
    cases blocked : (run signer mutations).tables.obstacle? mutation.change with
    | some error =>
        -- the obstacle is looked for before anything is written
        left
        rw [mutate_of_obstacle blocked]
    | none => exact Or.inr (refused_of_failure blocked sound failed)
  · intro proposal time absent refused
    exact failure_of_refused absent refused time

theorem mutate_atomic_unless_refused_signedProposal :
    let signer := AuditSigner.restamping (.ofSeed (List.replicate 32 7))
    let written := (run signer []).mutate (signedProposal (some ⟨0, []⟩))
    signer.IsSound ∧ (run signer []).query (.byLoan (.ofClock 0 1)) = .ok [] ∧
      (∃ fault, written.2 = reject (.invalidSignature fault)) ∧
        ∃ fault, written.1.query (.byLoan (.ofClock 0 1)) = reject (.invalidSignature fault) := by
  intro signer written
  have sound : signer.IsSound := AuditSigner.isSound_restamping _
  have refuses : signer.check ⟨0, []⟩ ≠ .ok () := by
    intro accepted
    cases accepted
  exact ⟨sound, (mutate_atomic_unless_refused sound []).2 (signedLoan (some ⟨0, []⟩)) newYear rfl
    (hasRefusedSignOff_signedLoan refuses)⟩

/-- A mutation may fail and yet change what a query answers. -/
theorem signedProposal_fails_written :
    let store := empty (.ofSeed (List.replicate 32 7))
    let written := store.mutate (signedProposal (some ⟨0, []⟩))
    (∃ failure, written.2 = .error failure) ∧
      written.1.query (.byLoan (.ofClock 0 1)) ≠ store.query (.byLoan (.ofClock 0 1)) := by
  intro store written
  have absent : (run store.signer []).tables.find? (signedLoan (some ⟨0, []⟩)).id = none := rfl
  have refuses : store.signer.check ⟨0, []⟩ ≠ .ok () := by
    intro accepted
    cases accepted
  obtain ⟨before, ⟨fault, answer⟩, other, after⟩ :=
    failure_of_refused absent (hasRefusedSignOff_signedLoan refuses) newYear
  refine ⟨⟨_, answer⟩, fun same => ?_⟩
  cases after.symm.trans (same.trans before)

end Store

end LoanBook
