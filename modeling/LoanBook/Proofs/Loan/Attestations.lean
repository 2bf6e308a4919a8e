import LoanBook.Loan.Basic

/-!
# Where attestations stand

An attestation on a loan stands in one of five places: beside the loan itself, on its approval, on
its disbursement, beside one of its parties or beside one of their payments.  Each place is stated
here by itself; the list by which a loan is checked has the attestations of all places and no other.
-/

namespace LoanBook

/-- A party carries an attestation itself or on one of its payments. -/
inductive LoanParty.Carries (party : LoanParty) (attestation : Attestation) : Prop where
  | created (own : party.created = some attestation)
  | payment {payment : Payment} (listed : payment ∈ party.payments)
      (created : payment.created = some attestation)

/-- A loan carries an attestation itself, on a sign-off or with one of its parties. -/
inductive Loan.Carries (loan : Loan) (attestation : Attestation) : Prop where
  | created (own : loan.created = some attestation)
  | approval {approval : Approval} (approved : loan.approval = some approval)
      (attested : approval.attested = some attestation)
  | disbursement {disbursement : Disbursement} (disbursed : loan.disbursement = some disbursement)
      (attested : disbursement.attested = some attestation)
  | party {party : LoanParty} (listed : party ∈ loan.parties) (carried : party.Carries attestation)

theorem LoanParty.mem_attestations_iff {party : LoanParty} {attestation : Attestation} :
    attestation ∈ party.attestations ↔ party.Carries attestation := by
  simp only [attestations, List.mem_append, Option.mem_toList, List.mem_filterMap]
  constructor
  · rintro (own | ⟨payment, listed, created⟩)
    · exact .created own
    · exact .payment listed created
  · rintro (own | ⟨listed, created⟩)
    · exact Or.inl own
    · exact Or.inr ⟨_, listed, created⟩

theorem Loan.mem_attestations_iff {loan : Loan} {attestation : Attestation} :
    attestation ∈ loan.attestations ↔ loan.Carries attestation := by
  simp only [attestations, List.mem_append, Option.mem_toList, Option.bind_eq_some_iff,
    List.mem_flatMap, LoanParty.mem_attestations_iff]
  constructor
  · rintro (((own | ⟨approval, approved, attested⟩) | ⟨disbursement, disbursed, attested⟩) |
      ⟨party, listed, carried⟩)
    · exact .created own
    · exact .approval approved attested
    · exact .disbursement disbursed attested
    · exact .party listed carried
  · rintro (own | ⟨approved, attested⟩ | ⟨disbursed, attested⟩ | ⟨listed, carried⟩)
    · exact Or.inl (Or.inl (Or.inl own))
    · exact Or.inl (Or.inl (Or.inr ⟨_, approved, attested⟩))
    · exact Or.inl (Or.inr ⟨_, disbursed, attested⟩)
    · exact Or.inr ⟨_, listed, carried⟩

end LoanBook
