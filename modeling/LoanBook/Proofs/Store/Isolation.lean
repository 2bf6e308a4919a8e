import LoanBook.Proofs.Store.Atomicity
import Mathlib.Algebra.Order.BigOperators.Group.List
import Mathlib.Algebra.Order.Group.Nat

/-!
# What a mutation does to other loans

Payments are stored under the identifier of their party alone.  So a mutation that submits a party
with payments pays into every stored party of that identifier, also of loans that it does not name:
reading such a loan then answers differently.  This is the only way in which a mutation reaches
another loan.  Nothing is assumed of the mutations here.
-/

namespace LoanBook

/-- The payments that a change submits for a party identifier, as they are written with a stamp. -/
def LoanChange.paymentsTo (change : LoanChange) (stamp : Attestation) (id : PartyId) :
    List Payment :=
  (change.parties.filter fun party => party.id = id).flatMap fun party =>
    party.payments.map (Payment.stamped stamp)

namespace Tables

/-- The change would be written, and submits payments for a party identifier that the loan has. -/
def PaysInto (tables : Tables) (id : LoanId) (change : LoanChange) : Prop :=
  tables.obstacle? change = none ∧
    ∃ row ∈ tables.parties, row.loan = id ∧
      ∃ party ∈ change.parties, party.id = row.id ∧ party.payments ≠ []

variable {tables : Tables} {change : LoanChange} {stamp : Attestation}

theorem parties_write (tables : Tables) (stamp : Attestation) (change : LoanChange) :
    (tables.write stamp change).parties =
      tables.parties ++ change.parties.map fun party =>
        .ofParty change.loanId (party.stamped stamp) := by
  cases change with
  | propose loan => rfl
  | approve loan approvedBy document => simp [write, updateLoan, LoanChange.parties]
  | invest loan lenders => rfl
  | disburse loan disbursedBy contract => simp [write, updateLoan, LoanChange.parties]

theorem payments_write (tables : Tables) (stamp : Attestation) (change : LoanChange) :
    (tables.write stamp change).payments =
      tables.payments ++ change.parties.flatMap fun party =>
        party.payments.map fun payment => (party.id, payment.stamped stamp) := by
  cases change with
  | propose loan => rfl
  | approve loan approvedBy document => simp [write, updateLoan, LoanChange.parties]
  | invest loan lenders => rfl
  | disburse loan disbursedBy contract => simp [write, updateLoan, LoanChange.parties]

/-- The parties of another loan stay, but get the payments that are submitted for their
identifiers. -/
theorem partiesOf_write_of_ne {id : LoanId} (other : id ≠ change.loanId) :
    (tables.write stamp change).partiesOf id =
      (tables.partiesOf id).map fun entry =>
        (entry.1, entry.2 ++ change.paymentsTo stamp entry.1.id) := by
  have submitted (party : PartyId) : ((change.parties.flatMap fun party =>
      party.payments.map fun payment => (party.id, payment.stamped stamp)).filter
        fun entry => entry.1 = party).map Prod.snd = change.paymentsTo stamp party := by
    unfold LoanChange.paymentsTo
    induction change.parties with
    | nil => rfl
    | cons first parties ih =>
        rw [List.flatMap_cons, List.filter_append, List.map_append, ih]
        by_cases same : first.id = party
        · simp [same, List.filter_map, Function.comp_def]
        · simp [same, List.filter_map, Function.comp_def]
  have none : (change.parties.map fun party => PartyRecord.ofParty change.loanId
      (party.stamped stamp)).filter (fun party => party.loan = id) = [] := by
    rw [List.filter_eq_nil_iff]
    intro row member owned
    obtain ⟨party, _, rfl⟩ := List.mem_map.mp member
    exact other (of_decide_eq_true owned).symm
  unfold partiesOf
  rw [parties_write, payments_write, List.filter_append, none, List.append_nil, List.map_map]
  apply List.map_congr_left
  intro row _
  simp only [Function.comp_apply, List.filter_append, List.map_append, submitted]

theorem find?_write_of_ne {id : LoanId} (other : id ≠ change.loanId) :
    (tables.write stamp change).find? id = tables.find? id := by
  cases change with
  | propose loan =>
      have differs : loan.id ≠ id := other.symm
      show find? ⟨tables.loans ++ [_], _, _⟩ id = _
      rw [find?, List.find?_append, ← find?]
      simp [LoanRecord.ofLoan, differs]
  | approve loan approvedBy document =>
      rw [write, find?_updateLoan]
      · exact if_neg other
      · exact fun _ => rfl
  | invest loan lenders =>
      show (tables.updateLoan loan _).find? id = _
      rw [find?_updateLoan]
      · exact if_neg other
      · exact fun _ => rfl
  | disburse loan disbursedBy contract =>
      rw [write, find?_updateLoan]
      · exact if_neg other
      · exact fun _ => rfl

theorem mem_ids_write (allowed : tables.obstacle? change = none) (stamp : Attestation) {id : LoanId}
    (stored : id ∈ tables.loans.map LoanRecord.id) :
    id ∈ (tables.write stamp change).loans.map LoanRecord.id := by
  by_cases own : id = change.loanId
  · rw [own]
    exact loanId_mem_write allowed stamp
  · by_contra absent
    have none := find?_eq_none_iff.mpr absent
    rw [find?_write_of_ne own] at none
    exact find?_eq_none_iff.mp none stored

/-- Parties are written for stored loans only. -/
theorem party_owner_write (allowed : tables.obstacle? change = none) (stamp : Attestation)
    (owned : ∀ row ∈ tables.parties, row.loan ∈ tables.loans.map LoanRecord.id) :
    ∀ row ∈ (tables.write stamp change).parties,
      row.loan ∈ (tables.write stamp change).loans.map LoanRecord.id := by
  intro row member
  rw [parties_write] at member
  rcases List.mem_append.mp member with before | here
  · exact mem_ids_write allowed stamp (owned row before)
  · obtain ⟨party, _, rfl⟩ := List.mem_map.mp here
    exact loanId_mem_write allowed stamp

/-- What is read of a loan is told by its record and its parties. -/
theorem join_byLoan_congr {altered : Tables} {id : LoanId}
    (nodup : (tables.loans.map LoanRecord.id).Nodup)
    (alteredNodup : (altered.loans.map LoanRecord.id).Nodup)
    (found : altered.find? id = tables.find? id)
    (parties : altered.partiesOf id = tables.partiesOf id) :
    altered.join (.byLoan id) = tables.join (.byLoan id) := by
  cases stored : tables.find? id with
  | none => rw [join_byLoan_of_absent (found.trans stored), join_byLoan_of_absent stored]
  | some record =>
      have idEq := id_of_find? stored
      subst idEq
      rw [join_byLoan_of_mem alteredNodup (List.mem_of_find?_eq_some (found.trans stored)),
        join_byLoan_of_mem nodup (List.mem_of_find?_eq_some stored), parties]

/-- A change that does not pay into another loan leaves its parties and their payments alone. -/
theorem partiesOf_write_of_not_paysInto {id : LoanId} (other : id ≠ change.loanId)
    (allowed : tables.obstacle? change = none) (unpaid : ¬ tables.PaysInto id change) :
    (tables.write stamp change).partiesOf id = tables.partiesOf id := by
  have unchanged : ∀ entry ∈ tables.partiesOf id,
      (entry.1, entry.2 ++ change.paymentsTo stamp entry.1.id) = entry := by
    intro entry member
    obtain ⟨row, rowMem, rfl⟩ := List.mem_map.mp member
    obtain ⟨stored, owned⟩ := List.mem_filter.mp rowMem
    have none : change.paymentsTo stamp row.id = [] := by
      rw [LoanChange.paymentsTo, List.flatMap_eq_nil_iff]
      intro party partyMem
      obtain ⟨submitted, same⟩ := List.mem_filter.mp partyMem
      by_contra paid
      exact unpaid ⟨allowed, row, stored, of_decide_eq_true owned, party, submitted,
        of_decide_eq_true same, fun empty => paid (by rw [empty, List.map_nil])⟩
    rw [none, List.append_nil]
  rw [partiesOf_write_of_ne other, List.map_congr_left unchanged, List.map_id']

/-- A change that pays into another loan leaves it with more payments than before. -/
theorem payments_lt_of_paysInto {id : LoanId} (other : id ≠ change.loanId)
    (paid : tables.PaysInto id change) :
    ((tables.partiesOf id).flatMap Prod.snd).length <
      (((tables.write stamp change).partiesOf id).flatMap Prod.snd).length := by
  obtain ⟨_, row, stored, owned, party, submitted, same, some⟩ := paid
  rw [partiesOf_write_of_ne other, List.flatMap_map, List.length_flatMap, List.length_flatMap]
  apply List.sum_lt_sum
  · intro entry _
    simp
  · refine ⟨_, List.mem_map_of_mem (List.mem_filter.mpr ⟨stored, by simpa using owned⟩), ?_⟩
    have paysHere : 0 < (change.paymentsTo stamp row.id).length := by
      obtain ⟨payment, paymentMem⟩ := List.exists_mem_of_ne_nil _ some
      apply List.length_pos_of_mem
      exact List.mem_flatMap.mpr ⟨party, List.mem_filter.mpr ⟨submitted, by simpa using same⟩,
        List.mem_map_of_mem paymentMem⟩
    simpa using paysHere

end Tables

namespace Store

variable {signer : AuditSigner} {mutations : List LoanMutation} {mutation : LoanMutation}

/-- Every party row belongs to a stored loan, whatever the mutations were. -/
theorem party_owner_run (signer : AuditSigner) (mutations : List LoanMutation) :
    let tables := (run signer mutations).tables
    ∀ row ∈ tables.parties, row.loan ∈ tables.loans.map LoanRecord.id := by
  induction mutations using List.reverseRecOn with
  | nil => exact fun _ none => nomatch none
  | append_singleton mutations mutation ih =>
      rw [run_append_singleton]
      cases blocked : (run signer mutations).tables.obstacle? mutation.change with
      | some error =>
          rw [mutate_of_obstacle blocked]
          exact ih
      | none =>
          rw [mutate_of_allowed blocked]
          exact Tables.party_owner_write blocked _ ih

/-- Equal rows and one signer give equal answers. -/
theorem query_congr {store altered : Store} {filter : LoanFilter}
    (signers : altered.signer = store.signer)
    (rows : altered.tables.join filter = store.tables.join filter) :
    altered.query filter = store.query filter := by
  obtain ⟨signer, tables⟩ := store
  obtain ⟨_, changed⟩ := altered
  cases signers
  simp only [query, rows]
  rfl

section Other

variable {id : LoanId} (other : id ≠ mutation.change.loanId)
include other

theorem query_run_of_not_paysInto
    (unpaid : ¬ (run signer mutations).tables.PaysInto id mutation.change) :
    (run signer (mutations ++ [mutation])).query (.byLoan id) =
      (run signer mutations).query (.byLoan id) := by
  cases blocked : (run signer mutations).tables.obstacle? mutation.change with
  | some error => rw [run_append_singleton, mutate_of_obstacle blocked]
  | none =>
      have nodup := (isTraced_run signer mutations).loans_nodup
      have nodupAfter := (isTraced_run signer (mutations ++ [mutation])).loans_nodup
      have written := tables_run_of_allowed blocked
      apply query_congr
      · rw [run_signer, run_signer]
      · apply Tables.join_byLoan_congr nodup nodupAfter
        · rw [written, Tables.find?_write_of_ne other]
        · rw [written, Tables.partiesOf_write_of_not_paysInto other blocked unpaid]

theorem query_run_ne_of_paysInto
    (paid : (run signer mutations).tables.PaysInto id mutation.change) {loans : List Loan}
    (answered : (run signer mutations).query (.byLoan id) = .ok loans) :
    (run signer (mutations ++ [mutation])).query (.byLoan id) ≠ .ok loans := by
  intro again
  have nodup := (isTraced_run signer mutations).loans_nodup
  have nodupAfter := (isTraced_run signer (mutations ++ [mutation])).loans_nodup
  have written := tables_run_of_allowed paid.1
  -- the loan is stored, because its party is
  obtain ⟨row, rowMem, owned, _⟩ := paid.2
  have listed := party_owner_run signer mutations row rowMem
  rw [owned] at listed
  obtain ⟨record, recordMem, rfl⟩ := List.mem_map.mp listed
  have found := Tables.find?_of_mem_of_nodup nodup recordMem
  rw [← Tables.find?_write_of_ne other, ← written] at found
  have same := (query_eq_ok_iff.mp answered).1.trans (query_eq_ok_iff.mp again).1.symm
  rw [Tables.join_byLoan_of_mem nodup recordMem,
    Tables.join_byLoan_of_mem nodupAfter (List.mem_of_find?_eq_some found)] at same
  have payments := congrArg (List.flatMap Loan.payments) same
  rw [Loan.flatMap_payments_ofRows, Loan.flatMap_payments_ofRows,
    LoanRecord.flatMap_payments_rows, LoanRecord.flatMap_payments_rows, written] at payments
  exact Nat.ne_of_lt (Tables.payments_lt_of_paysInto other paid) (congrArg List.length payments)

end Other

/-- A mutation, whatever came before it, changes the answer for a loan that it does not name exactly
when it is written and pays into the loan: when it submits payments for a party whose identifier a
party of that loan has, too. -/
theorem other_loan_kept_unless_paid (signer : AuditSigner) (mutations : List LoanMutation)
    (mutation : LoanMutation) {id : LoanId} (other : id ≠ mutation.change.loanId) :
    let store := run signer mutations
    let after := (store.mutate mutation).1
    (¬ store.tables.PaysInto id mutation.change →
      after.query (.byLoan id) = store.query (.byLoan id)) ∧
    (store.tables.PaysInto id mutation.change → ∀ loans, store.query (.byLoan id) = .ok loans →
      after.query (.byLoan id) ≠ .ok loans) := by
  intro store after
  have afterEq : after = run signer (mutations ++ [mutation]) :=
    (run_append_singleton signer mutations mutation).symm
  rw [afterEq]
  constructor
  · intro unpaid
    exact query_run_of_not_paysInto other unpaid
  · intro paid loans answered
    exact query_run_ne_of_paysInto other paid answered

/-- A loan is proposed for a borrower with some payments, and always the same party identifier. -/
def borrowing (loan : LoanId) (payments : List Payment) : LoanMutation :=
  ⟨.propose (.proposed loan ⟨.ofClock 0 10, ⟨"900"⟩, .borrower, payments, none⟩), newYear⟩

/-- The draw of one thousand. -/
def thousandDrawn : Payment :=
  ⟨"IDR", (Decimal.ofUInt32 1000).negate, newYear, "", none⟩

theorem paysInto_borrowing (signer : AuditSigner) :
    (run signer [borrowing (.ofClock 0 1) []]).tables.PaysInto (.ofClock 0 1)
      (borrowing (.ofClock 0 2) [thousandDrawn]).change :=
  ⟨rfl, _, List.mem_singleton_self _, rfl, _, List.mem_singleton_self _, rfl, by simp⟩

theorem other_loan_kept_unless_paid_borrowing :
    let signer := AuditSigner.ofSeed (List.replicate 32 7)
    let store := run signer [borrowing (.ofClock 0 1) []]
    let mutation := borrowing (.ofClock 0 2) [thousandDrawn]
    let after := (store.mutate mutation).1
    .ofClock 0 1 ≠ mutation.change.loanId ∧
    (¬ store.tables.PaysInto (.ofClock 0 1) mutation.change →
      after.query (.byLoan (.ofClock 0 1)) = store.query (.byLoan (.ofClock 0 1))) ∧
    store.tables.PaysInto (.ofClock 0 1) mutation.change ∧
    ∀ loans, store.query (.byLoan (.ofClock 0 1)) = .ok loans →
      after.query (.byLoan (.ofClock 0 1)) ≠ .ok loans := by
  intro signer store mutation after
  have other : .ofClock 0 1 ≠ mutation.change.loanId := by decide
  have paid : store.tables.PaysInto (.ofClock 0 1) mutation.change := paysInto_borrowing signer
  obtain ⟨kept, changed⟩ := other_loan_kept_unless_paid signer [borrowing (.ofClock 0 1) []]
    mutation other
  exact ⟨other, kept, paid, changed paid⟩

/-- A loan without payments can be read. -/
theorem exists_query_borrowing {signer : AuditSigner} (sound : signer.IsSound) :
    ∃ loans, (run signer [borrowing (.ofClock 0 1) []]).query (.byLoan (.ofClock 0 1)) =
      .ok loans := by
  have distinct : ([borrowing (.ofClock 0 1) []].flatMap LoanMutation.partyIds).Nodup :=
    List.nodup_singleton _
  have represents := represents_run signer [borrowing (.ofClock 0 1) []] distinct
  have read := represents.wellFormed.ofRows_join_byLoan (.ofClock 0 1)
  rw [represents.loan?_eq] at read
  refine ⟨_, query_of_verifies ?_⟩
  rw [read]
  intro loan member attestation carried
  rw [List.mem_singleton.mp (show loan ∈ [_] from member)] at carried
  have stamps : attestation ∈ List.replicate 2 (signer.stampAt newYear) :=
    Loan.mem_attestations_iff.mpr carried
  rw [List.eq_of_mem_replicate stamps, run_signer]
  exact sound newYear

/-- A proposal may change the answer for another loan, which has a party of the same identifier. -/
theorem draw_seen_on_other_loan :
    let signer := AuditSigner.restamping (.ofSeed (List.replicate 32 7))
    let store := run signer [borrowing (.ofClock 0 1) []]
    let mutation := borrowing (.ofClock 0 2) [thousandDrawn]
    .ofClock 0 1 ≠ mutation.change.loanId ∧
      (store.mutate mutation).1.query (.byLoan (.ofClock 0 1)) ≠
        store.query (.byLoan (.ofClock 0 1)) := by
  intro signer store mutation
  have other : .ofClock 0 1 ≠ mutation.change.loanId := by decide
  obtain ⟨loans, answered⟩ :=
    exists_query_borrowing (AuditSigner.isSound_restamping (.ofSeed (List.replicate 32 7)))
  have changed := query_run_ne_of_paysInto other (paysInto_borrowing signer) answered
  rw [run_append_singleton] at changed
  refine ⟨other, fun same => changed (same.trans answered)⟩

end Store

end LoanBook
