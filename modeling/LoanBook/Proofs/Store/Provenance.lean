import LoanBook.Proofs.Loan.Origins
import LoanBook.Proofs.Store.Ledger

/-!
# Who wrote what is stored

Everything in the tables was written by a mutation of the run, and carries the stamp of that
mutation.  The exception is a proposal, which may bring an approval or a disbursement along: these
are stored as they came, although the state says that there are none, until a mutation of the store
replaces them.  Nothing is assumed of the mutations here, not even that their parties have
identifiers of their own.
-/

namespace LoanBook

namespace LoanMutation

/-- The mutation writes a row of one of its parties, with its stamp. -/
def WritesParty (signer : AuditSigner) (mutation : LoanMutation) (record : PartyRecord) : Prop :=
  ∃ party ∈ mutation.change.parties, record =
    .ofParty mutation.change.loanId (party.stamped (signer.stampAt mutation.time))

/-- The mutation writes a payment of one of its parties, with its stamp. -/
def WritesPayment (signer : AuditSigner) (mutation : LoanMutation) (entry : PartyId × Payment) :
    Prop :=
  ∃ party ∈ mutation.change.parties, ∃ payment ∈ party.payments,
    entry = (party.id, payment.stamped (signer.stampAt mutation.time))

end LoanMutation

/-- The columns of a loan as the written mutations explain them.  A proposal entered the loan, with
the stamp of that moment.  An approval or a disbursement was written by a mutation that made it, with
its stamp, or came with the proposal and was not replaced yet. -/
structure LoanRecord.IsTracedTo (signer : AuditSigner) (wrote : LoanMutation → Prop)
    (proposal : Loan) (record : LoanRecord) : Prop where
  id_eq : record.id = proposal.id
  created : ∃ time, wrote ⟨.propose proposal, time⟩ ∧ record.created = some (signer.stampAt time)
  approval_iff : record.approval.isSome ↔ .approved ≤ record.state ∨ proposal.approval.isSome
  disbursement_iff : record.disbursement.isSome ↔
    record.state = .disbursed ∨ proposal.disbursement.isSome
  approval : ∀ approval, record.approval = some approval →
    (record.state = .proposed ∧ proposal.approval = some approval) ∨
      ∃ time, wrote ⟨.approve record.id approval.approvedBy approval.document, time⟩ ∧
        approval.attested = some (signer.stampAt time)
  disbursement : ∀ disbursement, record.disbursement = some disbursement →
    (record.state ≠ .disbursed ∧ proposal.disbursement = some disbursement) ∨
      ∃ time, wrote ⟨.disburse record.id disbursement.disbursedBy disbursement.contract, time⟩ ∧
        disbursement.attested = some (signer.stampAt time)

/-- A party of a loan and its payments as the written mutations explain them. -/
structure LoanParty.IsTracedTo (signer : AuditSigner) (wrote : LoanMutation → Prop) (loan : LoanId)
    (party : LoanParty) : Prop where
  columns : ∃ mutation, wrote mutation ∧ mutation.WritesParty signer (.ofParty loan party)
  payments : ∀ payment ∈ party.payments,
    ∃ mutation, wrote mutation ∧ mutation.WritesPayment signer (party.id, payment)

namespace LoanRecord

variable {signer : AuditSigner} {wrote : LoanMutation → Prop} {proposal : Loan}
  {record : LoanRecord}

theorem IsTracedTo.mono {more : LoanMutation → Prop}
    (traced : record.IsTracedTo signer wrote proposal)
    (includes : ∀ mutation, wrote mutation → more mutation) :
    record.IsTracedTo signer more proposal where
  id_eq := traced.id_eq
  created := by
    obtain ⟨time, written, created⟩ := traced.created
    exact ⟨time, includes _ written, created⟩
  approval_iff := traced.approval_iff
  disbursement_iff := traced.disbursement_iff
  approval := by
    intro approval found
    rcases traced.approval approval found with kept | ⟨time, written, attested⟩
    · exact Or.inl kept
    · exact Or.inr ⟨time, includes _ written, attested⟩
  disbursement := by
    intro disbursement found
    rcases traced.disbursement disbursement found with kept | ⟨time, written, attested⟩
    · exact Or.inl kept
    · exact Or.inr ⟨time, includes _ written, attested⟩

section Step

variable {time : Calendar.Instant}

theorem isTracedTo_propose (written : wrote ⟨.propose proposal, time⟩) :
    { LoanRecord.ofLoan proposal with
      state := .proposed, created := some (signer.stampAt time) }.IsTracedTo signer wrote
        proposal where
  id_eq := rfl
  created := ⟨time, written, rfl⟩
  approval_iff := by simp [ofLoan, LoanState.le_def, LoanState.rank]
  disbursement_iff := by simp [ofLoan]
  approval := fun _ found => Or.inl ⟨rfl, found⟩
  disbursement := fun _ found => Or.inl ⟨by simp, found⟩

variable (traced : record.IsTracedTo signer wrote proposal)
include traced

theorem IsTracedTo.approve {approvedBy : UserId} {document : String}
    (state : record.state = .proposed)
    (written : wrote ⟨.approve record.id approvedBy document, time⟩) :
    { record with
      state := .approved
      approval := some ⟨approvedBy, document, some (signer.stampAt time)⟩ : LoanRecord }.IsTracedTo
        signer wrote proposal where
  id_eq := traced.id_eq
  created := traced.created
  approval_iff := by simp [LoanState.le_refl]
  disbursement_iff := by simpa [state] using traced.disbursement_iff
  approval := by
    intro approval found
    cases found
    exact Or.inr ⟨time, written, rfl⟩
  disbursement := by
    intro disbursement found
    rcases traced.disbursement disbursement found with ⟨_, kept⟩ | written
    · exact Or.inl ⟨by simp, kept⟩
    · exact Or.inr written

theorem IsTracedTo.invest (state : record.state = .approved) :
    { record with state := .invested : LoanRecord }.IsTracedTo signer wrote proposal where
  id_eq := traced.id_eq
  created := traced.created
  approval_iff := by
    simpa [state, LoanState.le_def, LoanState.rank] using traced.approval_iff
  disbursement_iff := by simpa [state] using traced.disbursement_iff
  approval := by
    intro approval found
    rcases traced.approval approval found with ⟨proposed, _⟩ | written
    · cases state.symm.trans proposed
    · exact Or.inr written
  disbursement := by
    intro disbursement found
    rcases traced.disbursement disbursement found with ⟨_, kept⟩ | written
    · exact Or.inl ⟨by simp, kept⟩
    · exact Or.inr written

theorem IsTracedTo.disburse {disbursedBy : UserId} {contract : String}
    (state : record.state = .invested)
    (written : wrote ⟨.disburse record.id disbursedBy contract, time⟩) :
    { record with
      state := .disbursed
      disbursement := some ⟨disbursedBy, contract, some (signer.stampAt time)⟩ :
        LoanRecord }.IsTracedTo signer wrote proposal where
  id_eq := traced.id_eq
  created := traced.created
  approval_iff := by
    simpa [state, LoanState.le_def, LoanState.rank] using traced.approval_iff
  disbursement_iff := by simp
  approval := by
    intro approval found
    rcases traced.approval approval found with ⟨proposed, _⟩ | written
    · cases state.symm.trans proposed
    · exact Or.inr written
  disbursement := by
    intro disbursement found
    cases found
    exact Or.inr ⟨time, written, rfl⟩

end Step

end LoanRecord

namespace Tables

/-- Tables that hold every loan once and nothing that the written mutations do not explain. -/
structure IsTraced (signer : AuditSigner) (wrote : LoanMutation → Prop) (tables : Tables) :
    Prop where
  loans_nodup : (tables.loans.map LoanRecord.id).Nodup
  loans : ∀ record ∈ tables.loans, ∃ proposal, record.IsTracedTo signer wrote proposal
  parties : ∀ record ∈ tables.parties, ∃ mutation, wrote mutation ∧
    mutation.WritesParty signer record
  payments : ∀ entry ∈ tables.payments, ∃ mutation, wrote mutation ∧
    mutation.WritesPayment signer entry

variable {signer : AuditSigner} {wrote : LoanMutation → Prop} {tables : Tables}

theorem isTraced_empty : empty.IsTraced signer wrote where
  loans_nodup := List.nodup_nil
  loans := by simp [empty]
  parties := by simp [empty]
  payments := by simp [empty]

theorem state_of_allowed {change : LoanChange} {record : LoanRecord}
    (nodup : (tables.loans.map LoanRecord.id).Nodup) (allowed : tables.obstacle? change = none)
    (member : record ∈ tables.loans) (same : record.id = change.loanId) :
    some record.state = change.required? := by
  rw [obstacle?_eq_none_iff, loan?_map_state, ← same, find?_of_mem_of_nodup nodup member] at allowed
  exact allowed

/-- What stands in the joined rows stands in the tables. -/
theorem of_mem_join {filter : LoanFilter} {row : LoanRow} (member : row ∈ tables.join filter) :
    row.loan ∈ tables.loans ∧ ∀ party, row.party = some party →
      party ∈ tables.parties ∧ party.loan = row.loan.id ∧
        ∀ payment, row.payment = some payment → (party.id, payment) ∈ tables.payments := by
  obtain ⟨record, recordMem, rowMem⟩ := List.mem_flatMap.mp member
  rw [List.mem_mergeSort, List.mem_filter] at recordMem
  obtain ⟨own, columns⟩ := LoanRecord.of_mem_rows rowMem
  rw [own]
  refine ⟨recordMem.1, fun party same => ?_⟩
  obtain ⟨payments, entryMem, paid⟩ := columns party same
  obtain ⟨stored, storedMem, entryEq⟩ := List.mem_map.mp entryMem
  cases entryEq
  rw [List.mem_filter, decide_eq_true_eq] at storedMem
  refine ⟨storedMem.1, storedMem.2, fun payment has => ?_⟩
  obtain ⟨entry, found, rfl⟩ := List.mem_map.mp (paid payment has)
  rw [List.mem_filter, decide_eq_true_eq] at found
  rw [← found.2]
  exact found.1

section IsTraced

variable (traced : tables.IsTraced signer wrote)
include traced

theorem IsTraced.mono {more : LoanMutation → Prop}
    (includes : ∀ mutation, wrote mutation → more mutation) : tables.IsTraced signer more where
  loans_nodup := traced.loans_nodup
  loans := by
    intro record member
    obtain ⟨proposal, origin⟩ := traced.loans record member
    exact ⟨proposal, origin.mono includes⟩
  parties := by
    intro record member
    obtain ⟨mutation, written, writes⟩ := traced.parties record member
    exact ⟨mutation, includes _ written, writes⟩
  payments := by
    intro entry member
    obtain ⟨mutation, written, writes⟩ := traced.payments entry member
    exact ⟨mutation, includes _ written, writes⟩

theorem IsTraced.appendLoan {record : LoanRecord} {proposal : Loan}
    (absent : tables.find? record.id = none) (origin : record.IsTracedTo signer wrote proposal) :
    IsTraced signer wrote { tables with loans := tables.loans ++ [record] } where
  loans_nodup := loans_nodup_append record absent traced.loans_nodup
  loans := by
    intro other member
    rcases List.mem_append.mp member with before | here
    · exact traced.loans other before
    · rw [List.mem_singleton.mp here]
      exact ⟨proposal, origin⟩
  parties := traced.parties
  payments := traced.payments

theorem IsTraced.updateLoan {loan : LoanId} {update : LoanRecord → LoanRecord}
    (keeps : ∀ record, (update record).id = record.id)
    (origin : ∀ record ∈ tables.loans, record.id = loan →
      ∀ proposal, record.IsTracedTo signer wrote proposal →
        (update record).IsTracedTo signer wrote proposal) :
    (tables.updateLoan loan update).IsTraced signer wrote where
  loans_nodup := by
    rw [updateLoan_ids keeps]
    exact traced.loans_nodup
  loans := by
    intro other member
    obtain ⟨record, recordMem, rfl⟩ := List.mem_map.mp member
    obtain ⟨proposal, before⟩ := traced.loans record recordMem
    by_cases own : record.id = loan
    · rw [if_pos own]
      exact ⟨proposal, origin record recordMem own proposal before⟩
    · rw [if_neg own]
      exact ⟨proposal, before⟩
  parties := traced.parties
  payments := traced.payments

theorem IsTraced.insertParties {mutation : LoanMutation} (written : wrote mutation) :
    (tables.insertParties mutation.change.loanId mutation.change.parties
      (signer.stampAt mutation.time)).IsTraced signer wrote where
  loans_nodup := traced.loans_nodup
  loans := traced.loans
  parties := by
    intro record member
    rcases List.mem_append.mp member with before | here
    · exact traced.parties record before
    · obtain ⟨party, partyMem, rfl⟩ := List.mem_map.mp here
      exact ⟨mutation, written, party, partyMem, rfl⟩
  payments := by
    intro entry member
    rcases List.mem_append.mp member with before | here
    · exact traced.payments entry before
    · obtain ⟨party, partyMem, entryMem⟩ := List.mem_flatMap.mp here
      obtain ⟨payment, paymentMem, rfl⟩ := List.mem_map.mp entryMem
      exact ⟨mutation, written, party, partyMem, payment, paymentMem, rfl⟩

/-- A mutation that meets no obstacle leaves tables that it helps to explain. -/
theorem IsTraced.write {mutation : LoanMutation}
    (allowed : tables.obstacle? mutation.change = none) (written : wrote mutation) :
    (tables.write (signer.stampAt mutation.time) mutation.change).IsTraced signer wrote := by
  obtain ⟨change, time⟩ := mutation
  have before {record : LoanRecord} (member : record ∈ tables.loans)
      (same : record.id = change.loanId) : some record.state = change.required? :=
    state_of_allowed traced.loans_nodup allowed member same
  cases change with
  | propose loan =>
      have entered := traced.appendLoan (absent_of_propose allowed)
        (LoanRecord.isTracedTo_propose written)
      exact entered.insertParties written
  | approve loan approvedBy document =>
      refine IsTraced.updateLoan traced ?_ ?_
      · exact fun _ => rfl
      · rintro record member rfl proposal origin
        exact origin.approve (Option.some.inj (before member rfl)) written
  | invest loan lenders =>
      have updated : (tables.updateLoan loan fun record =>
          { record with state := .invested }).IsTraced signer wrote := by
        refine IsTraced.updateLoan traced ?_ ?_
        · exact fun _ => rfl
        · rintro record member rfl proposal origin
          exact origin.invest (Option.some.inj (before member rfl))
      exact updated.insertParties written
  | disburse loan disbursedBy contract =>
      refine IsTraced.updateLoan traced ?_ ?_
      · exact fun _ => rfl
      · rintro record member rfl proposal origin
        exact origin.disburse (Option.some.inj (before member rfl)) written

/-- Each stored loan is read under its identifier, with its columns. -/
theorem IsTraced.exists_read {record : LoanRecord} (member : record ∈ tables.loans) :
    ∃ loan, Loan.ofRows (tables.join (.byLoan record.id)) = [loan] ∧
      LoanRecord.ofLoan loan = record := by
  obtain ⟨parties, grouped⟩ := Loan.exists_ofRows_eq_singleton
    (record.rows_ne_nil (tables.partiesOf record.id))
    fun row rowMem => (LoanRecord.of_mem_rows rowMem).1
  refine ⟨record.withParties parties, ?_, rfl⟩
  rw [join_byLoan_of_mem traced.loans_nodup member, grouped]

theorem IsTraced.of_mem_ofRows_join {filter : LoanFilter} {loan : Loan}
    (member : loan ∈ Loan.ofRows (tables.join filter)) :
    (∃ proposal, (LoanRecord.ofLoan loan).IsTracedTo signer wrote proposal) ∧
      ∀ party ∈ loan.parties, party.IsTracedTo signer wrote loan.id := by
  have stands := Loan.standsIn_of_mem_ofRows member
  constructor
  · obtain ⟨row, rowMem, same⟩ := stands.columns
    rw [← same]
    exact traced.loans _ (of_mem_join rowMem).1
  · intro party partyMem
    have standing := stands.parties party partyMem
    constructor
    · obtain ⟨row, rowMem, owner, record, columns, same⟩ := standing.columns
      obtain ⟨stored, loanEq, _⟩ := (of_mem_join rowMem).2 record columns
      have recordEq : PartyRecord.ofParty loan.id party = record := by
        rw [← same, ← owner, ← loanEq]
        rfl
      rw [recordEq]
      exact traced.parties record stored
    · intro payment paymentMem
      obtain ⟨row, rowMem, _, has, record, columns, idEq⟩ := standing.payments payment paymentMem
      obtain ⟨_, _, paid⟩ := (of_mem_join rowMem).2 record columns
      rw [← idEq]
      exact traced.payments _ (paid payment has)

end IsTraced

end Tables

namespace Store

/-- A mutation of a run that was written: it met no obstacle in its turn. -/
def Wrote (signer : AuditSigner) (mutations : List LoanMutation) (mutation : LoanMutation) : Prop :=
  ∃ earlier later, mutations = earlier ++ mutation :: later ∧
    (run signer earlier).tables.obstacle? mutation.change = none

variable {signer : AuditSigner} {mutations : List LoanMutation} {mutation : LoanMutation}

theorem Wrote.append (wrote : Wrote signer mutations mutation) (more : List LoanMutation) :
    Wrote signer (mutations ++ more) mutation := by
  obtain ⟨earlier, later, rfl, allowed⟩ := wrote
  exact ⟨earlier, later ++ more, by simp, allowed⟩

theorem run_append_singleton (signer : AuditSigner) (mutations : List LoanMutation)
    (mutation : LoanMutation) :
    run signer (mutations ++ [mutation]) = ((run signer mutations).mutate mutation).1 :=
  List.foldl_append

@[simp]
theorem mutate_signer (store : Store) (mutation : LoanMutation) :
    (store.mutate mutation).1.signer = store.signer := by
  unfold mutate
  split <;> rfl

@[simp]
theorem run_signer (signer : AuditSigner) (mutations : List LoanMutation) :
    (run signer mutations).signer = signer := by
  induction mutations using List.reverseRecOn with
  | nil => rfl
  | append_singleton mutations mutation ih => rw [run_append_singleton, mutate_signer, ih]

/-- The mutations of a run that were written explain what is stored after it. -/
theorem isTraced_run (signer : AuditSigner) (mutations : List LoanMutation) :
    (run signer mutations).tables.IsTraced signer (Wrote signer mutations) := by
  induction mutations using List.reverseRecOn with
  | nil => exact Tables.isTraced_empty
  | append_singleton mutations mutation ih =>
      -- whether the last mutation is written depends on what the earlier ones left
      have before : (run signer mutations).tables.IsTraced signer
          (Wrote signer (mutations ++ [mutation])) :=
        ih.mono fun _ wrote => wrote.append [mutation]
      rw [run_append_singleton]
      cases blocked : (run signer mutations).tables.obstacle? mutation.change with
      | some error =>
          rw [mutate_of_obstacle blocked]
          exact before
      | none =>
          have written : Wrote signer (mutations ++ [mutation]) mutation :=
            ⟨mutations, [], rfl, blocked⟩
          have after := before.write blocked written
          rw [mutate_of_allowed blocked, run_signer]
          exact after

/-- After every run of mutations, each stored loan is read, and whatever is read was written by the
mutations of the run, with their stamps: the creation of a loan by its proposal, its approval and its
disbursement by the mutations that made them, its parties and their payments by the mutations that
brought them.  An approval stands on a loan when its state tells of one, and a disbursement
likewise, or when the proposal brought one along: such a sign-off stays as it came until a mutation
replaces it. -/
theorem signOffs_traced (signer : AuditSigner) (mutations : List LoanMutation) :
    let tables := (run signer mutations).tables
    (∀ record ∈ tables.loans, ∃ loan,
      Loan.ofRows (tables.join (.byLoan record.id)) = [loan] ∧ LoanRecord.ofLoan loan = record) ∧
    ∀ filter, ∀ loan ∈ Loan.ofRows (tables.join filter),
      (∃ proposal, (LoanRecord.ofLoan loan).IsTracedTo signer (Wrote signer mutations) proposal) ∧
        ∀ party ∈ loan.parties, party.IsTracedTo signer (Wrote signer mutations) loan.id := by
  have traced := isTraced_run signer mutations
  constructor
  · intro record member
    exact traced.exists_read member
  · intro filter loan member
    exact traced.of_mem_ofRows_join member

/-- A loan of one hundred with an approval from the start. -/
def signedLoan (attested : Option Attestation) : Loan :=
  let draw : Payment := ⟨"IDR", Decimal.hundred.negate, newYear, "", none⟩
  let borrower : LoanParty := ⟨.ofClock 0 10, ⟨"900"⟩, .borrower, [draw], none⟩
  { Loan.proposed (.ofClock 0 1) borrower with approval := some ⟨⟨"777"⟩, "doc", attested⟩ }

/-- A proposal that brings an approval along. -/
def signedProposal (attested : Option Attestation) : LoanMutation :=
  ⟨.propose (signedLoan attested), newYear⟩

theorem read_signedProposal (signer : AuditSigner) (attested : Option Attestation) :
    ∃ loan, Loan.ofRows ((run signer [signedProposal attested]).tables.join
        (.byLoan (.ofClock 0 1))) = [loan] ∧
      loan.state = .proposed ∧ loan.approval = some ⟨⟨"777"⟩, "doc", attested⟩ := by
  have distinct : ([signedProposal attested].flatMap LoanMutation.partyIds).Nodup :=
    List.nodup_singleton _
  have represents := represents_run signer [signedProposal attested] distinct
  have read := represents.wellFormed.ofRows_join_byLoan (.ofClock 0 1)
  rw [represents.loan?_eq] at read
  exact ⟨_, read, rfl, rfl⟩

/-- A loan that is only proposed may have an approval. -/
theorem approval_before_approved :
    let tables := (run (.ofSeed (List.replicate 32 7)) [signedProposal none]).tables
    ∃ loan ∈ Loan.ofRows (tables.join (.byLoan (.ofClock 0 1))),
      ¬ (loan.approval.isSome ↔ .approved ≤ loan.state) := by
  obtain ⟨loan, read, state, approval⟩ :=
    read_signedProposal (.ofSeed (List.replicate 32 7)) none
  refine ⟨loan, by rw [read]; exact List.mem_singleton_self loan, ?_⟩
  rw [state, approval]
  decide

end Store

end LoanBook
