import LoanBook.Loan.Row
import Mathlib.Data.List.Chain

/-!
# Grouping joined rows

Rows are grouped from the end: a row either joins the loan and the party that the rows after it
begin with, or opens new ones.  This file shows that a loan laid out in rows comes back as it was
when no two neighbouring parties share an identifier, and that loans laid out one after another
come back apart when no two neighbouring loans do.
-/

namespace LoanBook

namespace LoanRecord

/-- The loan that a record makes with its parties and their payments. -/
def assemble (record : LoanRecord) (parties : List (PartyRecord × List Payment)) : Loan :=
  record.withParties (parties.map fun entry => entry.1.withPayments entry.2)

/-- The rows of one party in the rows of its loan. -/
def partyRows (record : LoanRecord) (entry : PartyRecord × List Payment) : List LoanRow :=
  match entry.2 with
  | [] => [⟨record, some entry.1, none⟩]
  | payments => payments.map fun payment => ⟨record, some entry.1, some payment⟩

theorem rows_cons (record : LoanRecord) (entry : PartyRecord × List Payment)
    (parties : List (PartyRecord × List Payment)) :
    record.rows (entry :: parties) =
      record.partyRows entry ++ parties.flatMap record.partyRows :=
  rfl

end LoanRecord

namespace Loan

/-- A row opens a loan when the rows after it begin with another loan. -/
theorem ofRows_cons_of_ne (row : LoanRow) {rows : List LoanRow}
    (opens : ∀ loan ∈ (ofRows rows).head?, loan.id ≠ row.loan.id) :
    ofRows (row :: rows) = row.loan.withParties (row.addTo []) :: ofRows rows := by
  rw [ofRows]
  cases grouped : ofRows rows with
  | nil => rfl
  | cons loan loans =>
      have other : loan.id ≠ row.loan.id := opens loan (by simp [grouped])
      simp [other]

/-- A row joins the loan that the rows after it begin with when that is its own. -/
theorem ofRows_cons_of_eq {row : LoanRow} {rows : List LoanRow} {loan : Loan} {loans : List Loan}
    (grouped : ofRows rows = loan :: loans) (same : loan.id = row.loan.id) :
    ofRows (row :: rows) = row.loan.withParties (row.addTo loan.parties) :: loans := by
  rw [ofRows, grouped]
  simp [same]

/-- Rows of one party put the party before those that the rows after it spell. -/
theorem ofRows_partyRows_append {record : LoanRecord} {party : PartyRecord} {rows : List LoanRow}
    {parties : List LoanParty} {loans : List Loan} (payments : List Payment)
    (after : parties = [] ∧ ofRows rows = loans ∨
      parties ≠ [] ∧ ofRows rows = record.withParties parties :: loans)
    (loanChanges : ∀ loan ∈ loans.head?, loan.id ≠ record.id)
    (partyChanges : ∀ next ∈ parties.head?, next.id ≠ party.id) :
    ofRows (record.partyRows (party, payments) ++ rows) =
      record.withParties (party.withPayments payments :: parties) :: loans := by
  have opens (payment : Option Payment) :
      ofRows (⟨record, some party, payment⟩ :: rows) =
        record.withParties (party.withPayments payment.toList :: parties) :: loans := by
    rcases after with ⟨rfl, grouped⟩ | ⟨_, grouped⟩
    · rw [ofRows_cons_of_ne _ (by rw [grouped]; exact loanChanges), grouped]
      rfl
    · rw [ofRows_cons_of_eq grouped rfl]
      cases parties with
      | nil => rfl
      | cons next parties =>
          have other : next.id ≠ party.id := partyChanges next rfl
          simp [LoanRow.addTo, LoanRecord.withParties, other]
  cases payments with
  | nil => exact opens none
  | cons payment payments =>
      induction payments generalizing payment with
      | nil => exact opens (some payment)
      | cons next payments ih =>
          have grouped := ih next
          simp only [LoanRecord.partyRows, List.map_cons, List.cons_append] at grouped ⊢
          rw [ofRows_cons_of_eq grouped rfl]
          simp [LoanRow.addTo, LoanRecord.withParties, PartyRecord.withPayments]

private theorem ofRows_flatMap_partyRows_append {record : LoanRecord} {rows : List LoanRow}
    (parties : List (PartyRecord × List Payment))
    (partiesChange : (parties.map fun entry => entry.1.id).IsChain (· ≠ ·))
    (loanChanges : ∀ loan ∈ (ofRows rows).head?, loan.id ≠ record.id) :
    parties = [] ∨
      ofRows (parties.flatMap record.partyRows ++ rows) =
        record.assemble parties :: ofRows rows := by
  induction parties with
  | nil => exact Or.inl rfl
  | cons entry parties ih =>
      right
      have tailChanges : (parties.map fun entry => entry.1.id).IsChain (· ≠ ·) :=
        partiesChange.tail
      rw [List.flatMap_cons, List.append_assoc]
      apply ofRows_partyRows_append
      · rcases ih tailChanges with rfl | grouped
        · exact Or.inl ⟨rfl, rfl⟩
        · by_cases none : parties = []
          · subst none
            exact Or.inl ⟨rfl, rfl⟩
          · exact Or.inr ⟨by simpa using none, grouped⟩
      · exact loanChanges
      · intro party first
        cases parties with
        | nil => simp at first
        | cons next parties =>
            have change : entry.1.id ≠ next.1.id := by
              simpa using partiesChange.rel
            have found : next.1.withPayments next.2 = party := by simpa using first
            rw [← found]
            exact change.symm

/-- A loan laid out in rows comes back before the loans of the rows after it. -/
theorem ofRows_rows_append {record : LoanRecord} {rows : List LoanRow}
    (parties : List (PartyRecord × List Payment))
    (partiesChange : (parties.map fun entry => entry.1.id).IsChain (· ≠ ·))
    (loanChanges : ∀ loan ∈ (ofRows rows).head?, loan.id ≠ record.id) :
    ofRows (record.rows parties ++ rows) = record.assemble parties :: ofRows rows := by
  cases parties with
  | nil =>
      exact ofRows_cons_of_ne ⟨record, none, none⟩ loanChanges
  | cons entry parties =>
      rw [LoanRecord.rows_cons, ← List.flatMap_cons]
      exact (ofRows_flatMap_partyRows_append (entry :: parties) partiesChange
        loanChanges).resolve_left (by simp)

/-- Loans laid out one after another come back in the same order. -/
theorem ofRows_flatMap_rows (records : List LoanRecord)
    (parties : LoanRecord → List (PartyRecord × List Payment))
    (loansChange : (records.map LoanRecord.id).IsChain (· ≠ ·))
    (partiesChange : ∀ record ∈ records,
      ((parties record).map fun entry => entry.1.id).IsChain (· ≠ ·)) :
    ofRows (records.flatMap fun record => record.rows (parties record)) =
      records.map fun record => record.assemble (parties record) := by
  induction records with
  | nil => rfl
  | cons record records ih =>
      have grouped := ih loansChange.tail fun other member =>
        partiesChange other (List.mem_cons_of_mem record member)
      rw [List.flatMap_cons, List.map_cons, ofRows_rows_append (parties record)
        (partiesChange record List.mem_cons_self), grouped]
      intro loan first
      rw [grouped] at first
      cases records with
      | nil => simp at first
      | cons next records =>
          have change : record.id ≠ next.id := by
            simpa using loansChange.rel
          have found : next.assemble (parties next) = loan := by simpa using first
          rw [← found]
          exact change.symm

end Loan

end LoanBook
