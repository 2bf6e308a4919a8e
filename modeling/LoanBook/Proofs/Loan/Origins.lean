import LoanBook.Proofs.Loan.Grouping

/-!
# Where the parts of a grouped loan come from

However rows are arranged, grouping them invents nothing: every loan has the columns of one of the
rows, every party those of a row of its loan, and every payment stands in a row of its party.  Rows
of one loan make up that loan and no other.  Nor does grouping lose anything: the payments of all
loans, read through, are those of the rows.
-/

namespace LoanBook

namespace LoanRecord

theorem rows_ne_nil (record : LoanRecord) (parties : List (PartyRecord × List Payment)) :
    record.rows parties ≠ [] := by
  cases parties with
  | nil => simp [rows]
  | cons entry parties =>
      rw [rows_cons, partyRows]
      cases entry.2 <;> simp

/-- What stands in a row of a loan is one of its parties, with one of the party's payments. -/
theorem of_mem_rows {record : LoanRecord} {parties : List (PartyRecord × List Payment)}
    {row : LoanRow} (member : row ∈ record.rows parties) :
    row.loan = record ∧ ∀ party, row.party = some party → ∃ payments, (party, payments) ∈ parties ∧
      ∀ payment, row.payment = some payment → payment ∈ payments := by
  cases parties with
  | nil =>
      rw [List.mem_singleton.mp member]
      exact ⟨rfl, nofun⟩
  | cons first rest =>
      rw [rows_cons, ← List.flatMap_cons] at member
      obtain ⟨entry, entryMem, rowMem⟩ := List.mem_flatMap.mp member
      unfold partyRows at rowMem
      split at rowMem
      · rw [List.mem_singleton.mp rowMem]
        refine ⟨rfl, fun party same => ⟨entry.2, ?_, fun payment own => ?_⟩⟩
        · cases same
          exact entryMem
        · cases own
      · obtain ⟨payment, paymentMem, rfl⟩ := List.mem_map.mp rowMem
        refine ⟨rfl, fun party same => ⟨entry.2, ?_, fun other own => ?_⟩⟩
        · cases same
          exact entryMem
        · cases own
          exact paymentMem

end LoanRecord

/-- The parts of a party stand in rows of the loan: its columns in one, each payment in one of its
identifier. -/
structure LoanParty.StandsIn (loan : LoanId) (rows : List LoanRow) (party : LoanParty) : Prop where
  columns : ∃ row ∈ rows, row.loan.id = loan ∧
    ∃ record, row.party = some record ∧ record.withPayments party.payments = party
  payments : ∀ payment ∈ party.payments, ∃ row ∈ rows, row.loan.id = loan ∧
    row.payment = some payment ∧ ∃ record, row.party = some record ∧ record.id = party.id

/-- The parts of a loan stand in rows. -/
structure Loan.StandsIn (rows : List LoanRow) (loan : Loan) : Prop where
  columns : ∃ row ∈ rows, row.loan = LoanRecord.ofLoan loan
  parties : ∀ party ∈ loan.parties, party.StandsIn loan.id rows

section Mono

variable {rows more : List LoanRow} (subset : rows ⊆ more)
include subset

theorem LoanParty.StandsIn.mono {id : LoanId} {party : LoanParty} (stands : party.StandsIn id rows) :
    party.StandsIn id more where
  columns := by
    obtain ⟨row, member, rest⟩ := stands.columns
    exact ⟨row, subset member, rest⟩
  payments := by
    intro payment paymentMem
    obtain ⟨row, member, rest⟩ := stands.payments payment paymentMem
    exact ⟨row, subset member, rest⟩

theorem Loan.StandsIn.mono {loan : Loan} (stands : loan.StandsIn rows) : loan.StandsIn more where
  columns := by
    obtain ⟨row, member, same⟩ := stands.columns
    exact ⟨row, subset member, same⟩
  parties := fun party member => (stands.parties party member).mono subset

end Mono

/-- A row that is put before the parties of its loan brings its own party and payment only. -/
theorem LoanRow.standsIn_addTo {row : LoanRow} {rows : List LoanRow} {parties : List LoanParty}
    (stand : ∀ party ∈ parties, party.StandsIn row.loan.id rows) {party : LoanParty}
    (member : party ∈ row.addTo parties) : party.StandsIn row.loan.id (row :: rows) := by
  have kept (other : LoanParty) (otherMem : other ∈ parties) :
      other.StandsIn row.loan.id (row :: rows) :=
    (stand other otherMem).mono (List.subset_cons_self row rows)
  cases columns : row.party with
  | none =>
      rw [addTo, columns] at member
      exact kept party member
  | some record =>
      -- the party that the row opens or joins; what it had before came from the rows after it
      have own (before : List Payment)
          (others : ∀ payment ∈ before, ∃ other ∈ row :: rows, other.loan.id = row.loan.id ∧
            other.payment = some payment ∧
              ∃ columns, other.party = some columns ∧ columns.id = record.id) :
          (record.withPayments (row.payment.toList ++ before)).StandsIn row.loan.id
            (row :: rows) := by
        constructor
        · exact ⟨row, List.mem_cons_self, rfl, record, columns, rfl⟩
        · intro payment paymentMem
          rcases List.mem_append.mp paymentMem with here | earlier
          · exact ⟨row, List.mem_cons_self, rfl, Option.mem_toList.mp here, record, columns, rfl⟩
          · exact others payment earlier
      have alone : (record.withPayments row.payment.toList).StandsIn row.loan.id (row :: rows) := by
        have opened := own [] (by simp)
        rwa [List.append_nil] at opened
      simp only [addTo, columns] at member
      cases parties with
      | nil =>
          rw [List.mem_singleton.mp member]
          exact alone
      | cons first rest =>
          by_cases same : first.id = record.id
          · simp only [same, if_true] at member
            rcases List.mem_cons.mp member with rfl | later
            · apply own
              intro payment paymentMem
              rw [← same]
              exact (kept first List.mem_cons_self).payments payment paymentMem
            · exact kept party (List.mem_cons_of_mem first later)
          · simp only [same, if_false] at member
            rcases List.mem_cons.mp member with rfl | later
            · exact alone
            · exact kept party later

namespace Loan

/-- Every loan that rows are grouped to stands in them. -/
theorem standsIn_of_mem_ofRows {rows : List LoanRow} {loan : Loan} (member : loan ∈ ofRows rows) :
    loan.StandsIn rows := by
  induction rows generalizing loan with
  | nil => cases member
  | cons row rows ih =>
      have later (other : Loan) (otherMem : other ∈ ofRows rows) : other.StandsIn (row :: rows) :=
        (ih otherMem).mono (List.subset_cons_self row rows)
      have first (parties : List LoanParty)
          (stand : ∀ party ∈ parties, party.StandsIn row.loan.id rows) :
          (row.loan.withParties (row.addTo parties)).StandsIn (row :: rows) :=
        ⟨⟨row, List.mem_cons_self, rfl⟩, fun _ partyMem => row.standsIn_addTo stand partyMem⟩
      cases grouped : ofRows rows with
      | nil =>
          rw [ofRows, grouped] at member
          rw [List.mem_singleton.mp member]
          exact first [] (by simp)
      | cons next loans =>
          have nextMem : next ∈ ofRows rows := grouped ▸ List.mem_cons_self
          -- the row joins the first loan of the rows after it, or opens one before it
          by_cases same : next.id = row.loan.id
          · rw [ofRows_cons_of_eq grouped same] at member
            rcases List.mem_cons.mp member with rfl | rest
            · apply first
              rw [← same]
              exact (ih nextMem).parties
            · exact later loan (grouped ▸ List.mem_cons_of_mem next rest)
          · rw [ofRows_cons_of_ne row (by simpa [grouped] using same)] at member
            rcases List.mem_cons.mp member with rfl | rest
            · exact first [] (by simp)
            · exact later loan rest

/-- Rows of one loan are grouped to it alone. -/
theorem exists_ofRows_eq_singleton {record : LoanRecord} {rows : List LoanRow} (some : rows ≠ [])
    (each : ∀ row ∈ rows, row.loan = record) :
    ∃ parties, ofRows rows = [record.withParties parties] := by
  induction rows with
  | nil => exact (some rfl).elim
  | cons row rows ih =>
      obtain ⟨own, others⟩ := List.forall_mem_cons.mp each
      by_cases last : rows = []
      · subst last
        exact ⟨row.addTo [], by rw [← own]; rfl⟩
      · obtain ⟨parties, grouped⟩ := ih last others
        refine ⟨row.addTo parties, ?_⟩
        rw [ofRows_cons_of_eq grouped (by rw [own]; rfl), own]
        rfl

end Loan

/-- The payment that a row brings to a party, if there is one. -/
def LoanRow.payments (row : LoanRow) : List Payment :=
  match row.party with
  | none => []
  | some _ => row.payment.toList

/-- All payments of a loan, party after party. -/
def Loan.payments (loan : Loan) : List Payment :=
  loan.parties.flatMap LoanParty.payments

theorem LoanRecord.flatMap_payments_rows (record : LoanRecord)
    (parties : List (PartyRecord × List Payment)) :
    (record.rows parties).flatMap LoanRow.payments = parties.flatMap Prod.snd := by
  have party (entry : PartyRecord × List Payment) :
      (record.partyRows entry).flatMap LoanRow.payments = entry.2 := by
    obtain ⟨columns, payments⟩ := entry
    cases payments with
    | nil => rfl
    | cons payment payments => simp [partyRows, LoanRow.payments, List.flatMap_map]
  cases parties with
  | nil => rfl
  | cons entry parties =>
      rw [rows_cons, ← List.flatMap_cons, List.flatMap_assoc]
      simp only [party]

theorem LoanRow.flatMap_payments_addTo (row : LoanRow) (parties : List LoanParty) :
    (row.addTo parties).flatMap LoanParty.payments =
      row.payments ++ parties.flatMap LoanParty.payments := by
  unfold addTo payments
  cases row.party with
  | none => rfl
  | some record =>
      cases parties with
      | nil => simp [PartyRecord.withPayments]
      | cons party rest =>
          by_cases same : party.id = record.id
          · simp [same, PartyRecord.withPayments]
          · simp [same, PartyRecord.withPayments]

/-- Grouping keeps every payment, in order. -/
theorem Loan.flatMap_payments_ofRows (rows : List LoanRow) :
    (ofRows rows).flatMap Loan.payments = rows.flatMap LoanRow.payments := by
  induction rows with
  | nil => rfl
  | cons row rows ih =>
      have first (parties : List LoanParty) : (row.loan.withParties (row.addTo parties)).payments =
          row.payments ++ parties.flatMap LoanParty.payments :=
        row.flatMap_payments_addTo parties
      rw [List.flatMap_cons, ← ih]
      cases grouped : ofRows rows with
      | nil =>
          rw [ofRows, grouped, List.flatMap_singleton, first]
          rfl
      | cons loan loans =>
          by_cases same : loan.id = row.loan.id
          · rw [ofRows_cons_of_eq grouped same, List.flatMap_cons, List.flatMap_cons, first,
              List.append_assoc]
            rfl
          · rw [ofRows_cons_of_ne row (by simpa [grouped] using same), grouped, List.flatMap_cons,
              first]
            simp

end LoanBook
