import LoanBook.Proofs.Lifecycle.Answers
import LoanBook.Proofs.Store.Tampering

/-!
# Tampering with a desk's store is evident

Whatever visits there were, every query of a desk succeeds, because all that it reads was stamped by
its own signer.  When one stored attestation is replaced by one that the signer refuses, the loan it
belongs to can no longer be queried, and all other loans can be as before.
-/

namespace LoanBook

namespace LoanDesk

variable {signer : AuditSigner}

/-- Over every run of visits at a new desk whose signer recognises its own stamps, each query answers
with the stored loans that its filter picks.  Every stored attestation, wherever it stands, belongs
to a stored loan and is on it.  Once it is replaced by one that the signer refuses, the queries that
pick the loan answer with an invalid signature and all others answer as before. -/
theorem tampering_evident {config : LoanConfig} {start : LoanDesk} (sound : signer.IsSound)
    (opened : new config (.empty signer) = .ok start) (visits : List Visit)
    (admitted : start.Admits visits) :
    let store := (start.run visits).store
    (∀ filter : LoanFilter, ∃ loans, store.query filter = .ok loans ∧
      ∀ loan, loan ∈ loans ↔ store.load loan.id = .ok loan ∧ filter.Picks loan) ∧
    ∀ place original forged, store.tables.attestation? place = some original →
      signer.check forged ≠ .ok () →
      ∃ owner loan, store.tables.owner? place = some owner ∧ store.load owner = .ok loan ∧
        original ∈ loan.attestations ∧ ∀ filter : LoanFilter,
          let tampered : Store := { store with tables := store.tables.tamper forged place }
          (filter.Picks loan → ∃ fault, tampered.query filter = reject (.invalidSignature fault)) ∧
          (¬ filter.Picks loan → tampered.query filter = store.query filter) := by
  intro store
  have attested := (isAttestedBy_new opened).run admitted
  have wellFormed := attested.wellFormed
  have verified := attested.verified sound
  constructor
  · intro filter
    refine ⟨_, Store.query_eq_ok wellFormed verified filter, fun loan => ?_⟩
    rw [wellFormed.mem_ofRows_join]
    constructor
    · rintro ⟨stored, picked⟩
      exact ⟨attested.load_eq sound stored, picked⟩
    · rintro ⟨loaded, picked⟩
      exact ⟨Store.loan?_of_load wellFormed loaded, picked⟩
  · intro place original forged stored refused
    apply Store.query_tampered wellFormed verified stored
    rwa [attested.signer_eq]

/-- An attestation without a seal is refused, and can replace that of the first loan stored. -/
theorem tampering_evident_openingRun :
    let signer := AuditSigner.restamping (.ofSeed (List.replicate 32 7))
    signer.IsSound ∧ signer.check ⟨0, []⟩ ≠ .ok () ∧
    ∃ start, new .standard (.empty signer) = .ok start ∧ start.Admits openingRun ∧
    let store := (start.run openingRun).store
    (store.tables.attestation? (.loan 0)).isSome ∧
    (∀ filter : LoanFilter, ∃ loans, store.query filter = .ok loans ∧
      ∀ loan, loan ∈ loans ↔ store.load loan.id = .ok loan ∧ filter.Picks loan) ∧
    ∀ place original forged, store.tables.attestation? place = some original →
      signer.check forged ≠ .ok () →
      ∃ owner loan, store.tables.owner? place = some owner ∧ store.load owner = .ok loan ∧
        original ∈ loan.attestations ∧ ∀ filter : LoanFilter,
          let tampered : Store := { store with tables := store.tables.tamper forged place }
          (filter.Picks loan → ∃ fault, tampered.query filter = reject (.invalidSignature fault)) ∧
          (¬ filter.Picks loan → tampered.query filter = store.query filter) := by
  intro signer
  have sound : signer.IsSound := AuditSigner.isSound_restamping _
  have unsealed : signer.check ⟨0, []⟩ ≠ .ok () := by
    intro passed
    cases passed
  let start : LoanDesk := ⟨.standard, .empty signer⟩
  have opened : new .standard (.empty signer) = .ok start := new_standard _
  have admitted := admits_openingRun opened
  have stored : ((start.run openingRun).store.tables.attestation? (.loan 0)).isSome := by
    decide +kernel
  exact ⟨sound, unsealed, start, opened, admitted, stored,
    tampering_evident sound opened openingRun admitted⟩

end LoanDesk

end LoanBook
