import LoanBook.Proofs.Loan.Attestations
import LoanBook.Proofs.Store.Writing

/-!
# Answers of the store

A query answers with the loans that it reads when every attestation on them verifies, and with an
invalid signature otherwise.  A mutation answers with the loan that it wrote, read back.
-/

namespace LoanBook

/-- Every attestation that the loan carries is recognised by the signer. -/
def Loan.VerifiesUnder (signer : AuditSigner) (loan : Loan) : Prop :=
  ∀ attestation, loan.Carries attestation → signer.check attestation = .ok ()

namespace Store

variable {store : Store}

theorem checkAttestation_eq_ok_iff {attestation : Attestation} :
    store.checkAttestation attestation = .ok () ↔ store.signer.check attestation = .ok () := by
  unfold checkAttestation
  cases store.signer.check attestation with
  | ok done => simp
  | error fault => simp [reject]

theorem checkLoan_eq_ok_iff {loan : Loan} :
    store.checkLoan loan = .ok () ↔ loan.VerifiesUnder store.signer := by
  rw [checkLoan, forM_eq_ok_iff]
  simp only [List.mem_eraseDups, Loan.mem_attestations_iff, checkAttestation_eq_ok_iff,
    Loan.VerifiesUnder]

theorem checkAttestation_eq_error {attestation : Attestation} {failure : Failure}
    (failed : store.checkAttestation attestation = .error failure) :
    ∃ fault, failure = .rejected (.invalidSignature fault) := by
  unfold checkAttestation at failed
  cases checked : store.signer.check attestation with
  | ok done => simp [checked] at failed
  | error fault =>
      rw [checked] at failed
      cases failed
      exact ⟨fault, rfl⟩

theorem query_of_verifies {filter : LoanFilter}
    (verified : ∀ loan ∈ Loan.ofRows (store.tables.join filter), loan.VerifiesUnder store.signer) :
    store.query filter = .ok (Loan.ofRows (store.tables.join filter)) := by
  have checked : (Loan.ofRows (store.tables.join filter)).forM store.checkLoan = .ok () :=
    forM_eq_ok_iff.mpr fun loan member => checkLoan_eq_ok_iff.mpr (verified loan member)
  simp only [query]
  rw [checked]
  rfl

/-- A loan that does not verify makes the whole answer an invalid signature. -/
theorem query_of_not_verifies {filter : LoanFilter} {loan : Loan}
    (member : loan ∈ Loan.ofRows (store.tables.join filter))
    (unverified : ¬ loan.VerifiesUnder store.signer) :
    ∃ fault, store.query filter = reject (.invalidSignature fault) := by
  cases checked : (Loan.ofRows (store.tables.join filter)).forM store.checkLoan with
  | ok done =>
      have passed := forM_eq_ok_iff.mp checked loan member
      exact (unverified (checkLoan_eq_ok_iff.mp passed)).elim
  | error failure =>
      obtain ⟨other, _, failed⟩ := exists_of_forM_eq_error checked
      obtain ⟨attestation, _, refused⟩ := exists_of_forM_eq_error failed
      obtain ⟨fault, rfl⟩ := checkAttestation_eq_error refused
      refine ⟨fault, ?_⟩
      simp only [query]
      rw [checked]
      rfl

/-- A query succeeds with what it reads, when all of that verifies. -/
theorem query_eq_ok_iff {filter : LoanFilter} {loans : List Loan} :
    store.query filter = .ok loans ↔ Loan.ofRows (store.tables.join filter) = loans ∧
      ∀ loan ∈ loans, loan.VerifiesUnder store.signer := by
  constructor
  · intro answered
    have verified : ∀ loan ∈ Loan.ofRows (store.tables.join filter),
        loan.VerifiesUnder store.signer := by
      intro loan member
      by_contra unverified
      obtain ⟨fault, refused⟩ := query_of_not_verifies member unverified
      cases answered.symm.trans refused
    cases answered.symm.trans (query_of_verifies verified)
    exact ⟨rfl, verified⟩
  · rintro ⟨rfl, verified⟩
    exact query_of_verifies verified

section Read

variable {id : LoanId} {loan : Loan}
  (read : Loan.ofRows (store.tables.join (.byLoan id)) = [loan])
include read

theorem load_of_read (verified : loan.VerifiesUnder store.signer) : store.load id = .ok loan := by
  rw [load, query_of_verifies (by simpa [read] using verified), read]
  rfl

theorem load_of_unverified_read (unverified : ¬ loan.VerifiesUnder store.signer) :
    ∃ fault, store.load id = reject (.invalidSignature fault) := by
  have member : loan ∈ Loan.ofRows (store.tables.join (.byLoan id)) := by
    rw [read]
    exact List.mem_singleton_self loan
  obtain ⟨fault, refused⟩ := query_of_not_verifies member unverified
  exact ⟨fault, by rw [load, refused]; rfl⟩

end Read

section Load

variable (wellFormed : store.tables.WellFormed) {id : LoanId}
include wellFormed

theorem load_of_absent (absent : store.tables.loan? id = none) :
    store.load id = reject (.loanNotFound id) := by
  have read := wellFormed.ofRows_join_byLoan id
  rw [absent, Option.toList_none] at read
  rw [load, query_of_verifies (by simp [read]), read]
  rfl

theorem load_of_verifies {loan : Loan} (stored : store.tables.loan? id = some loan)
    (verified : loan.VerifiesUnder store.signer) : store.load id = .ok loan := by
  have read := wellFormed.ofRows_join_byLoan id
  rw [stored, Option.toList_some] at read
  exact load_of_read read verified

theorem load_of_not_verifies {loan : Loan} (stored : store.tables.loan? id = some loan)
    (unverified : ¬ loan.VerifiesUnder store.signer) :
    ∃ fault, store.load id = reject (.invalidSignature fault) := by
  have read := wellFormed.ofRows_join_byLoan id
  rw [stored, Option.toList_some] at read
  exact load_of_unverified_read read unverified

theorem loan?_of_load {loan : Loan} (loaded : store.load id = .ok loan) :
    store.tables.loan? id = some loan := by
  cases stored : store.tables.loan? id with
  | none =>
      rw [load_of_absent wellFormed stored] at loaded
      cases loaded
  | some found =>
      by_cases verified : found.VerifiesUnder store.signer
      · rw [load_of_verifies wellFormed stored verified] at loaded
        cases loaded
        rfl
      · obtain ⟨fault, refused⟩ := load_of_not_verifies wellFormed stored verified
        rw [refused] at loaded
        cases loaded

/-- A store in which every loan verifies answers every query with the loans that it picks. -/
theorem query_eq_ok
    (verified : ∀ id loan, store.tables.loan? id = some loan → loan.VerifiesUnder store.signer)
    (filter : LoanFilter) : store.query filter = .ok (Loan.ofRows (store.tables.join filter)) :=
  query_of_verifies fun loan member =>
    verified loan.id loan (wellFormed.mem_ofRows_join.mp member).1

end Load

theorem mutate_of_obstacle {mutation : LoanMutation} {error : LoanError}
    (blocked : store.tables.obstacle? mutation.change = some error) :
    store.mutate mutation = (store, reject error) := by
  rw [mutate, blocked]

/-- A mutation that meets no obstacle is written and read back. -/
theorem mutate_of_allowed {mutation : LoanMutation}
    (allowed : store.tables.obstacle? mutation.change = none) :
    store.mutate mutation =
      let written : Store :=
        { store with
          tables := store.tables.write (store.signer.stampAt mutation.time) mutation.change }
      (written, written.load mutation.change.loanId) := by
  rw [mutate, allowed]

end Store

end LoanBook
