import LoanBook.Proofs.Loan.Grouping

/-!
# Loans that grouping keeps apart

Grouping joins neighbours with one identifier and nothing else.  So whatever it puts together has no
such neighbours, neither loans nor parties of a loan, and loans laid out in rows come back as they
were exactly when they had none before.
-/

namespace LoanBook

/-- A row leaves no neighbours of one identifier among the parties of its loan. -/
theorem LoanRow.addTo_isChain (row : LoanRow) {parties : List LoanParty}
    (differ : parties.IsChain fun party next => party.id ≠ next.id) :
    (row.addTo parties).IsChain fun party next => party.id ≠ next.id := by
  unfold LoanRow.addTo
  cases row.party with
  | none => exact differ
  | some record =>
      cases parties with
      | nil => exact .singleton _
      | cons party rest =>
          by_cases same : party.id = record.id
          · rw [List.isChain_cons, same] at differ
            simp only [if_pos same]
            exact List.isChain_cons.mpr differ
          · simp only [if_neg same]
            exact .cons_cons (Ne.symm same) differ

namespace Loan

/-- Loans of which no two neighbours share an identifier, nor two neighbouring parties of any. -/
structure AreSeparate (loans : List Loan) : Prop where
  loans_differ : loans.IsChain fun loan next => loan.id ≠ next.id
  parties_differ : ∀ loan ∈ loans, loan.parties.IsChain fun party next => party.id ≠ next.id

/-- The identifiers of a loan and of its parties. -/
def outline (loan : Loan) : LoanId × List PartyId :=
  (loan.id, loan.parties.map LoanParty.id)

variable {loan : Loan} {loans others : List Loan}

theorem areSeparate_cons_iff :
    AreSeparate (loan :: loans) ↔ (∀ next ∈ loans.head?, loan.id ≠ next.id) ∧
      (loan.parties.IsChain fun party next => party.id ≠ next.id) ∧ AreSeparate loans := by
  constructor
  · rintro ⟨loansDiffer, partiesDiffer⟩
    obtain ⟨changes, laterDiffer⟩ := List.isChain_cons.mp loansDiffer
    obtain ⟨first, later⟩ := List.forall_mem_cons.mp partiesDiffer
    exact ⟨changes, first, laterDiffer, later⟩
  · rintro ⟨changes, first, laterDiffer, later⟩
    exact ⟨List.isChain_cons.mpr ⟨changes, laterDiffer⟩, List.forall_mem_cons.mpr ⟨first, later⟩⟩

/-- Whether loans are separate shows in their identifiers and those of their parties. -/
theorem AreSeparate.of_outline (separate : AreSeparate others)
    (same : others.map outline = loans.map outline) : AreSeparate loans where
  loans_differ := by
    have ids := congrArg (List.map Prod.fst) same
    have chain := (List.isChain_map Loan.id).mpr separate.loans_differ
    rw [List.map_map, List.map_map] at ids
    exact (List.isChain_map Loan.id).mp (ids ▸ chain)
  parties_differ loan member := by
    have outlined : loan.outline ∈ others.map outline := by
      rw [same]
      exact List.mem_map_of_mem member
    obtain ⟨other, otherMem, otherSame⟩ := List.mem_map.mp outlined
    have parties : other.parties.map LoanParty.id = loan.parties.map LoanParty.id :=
      congrArg Prod.snd otherSame
    have chain := (List.isChain_map LoanParty.id).mpr (separate.parties_differ other otherMem)
    exact (List.isChain_map LoanParty.id).mp (parties ▸ chain)

/-- Whatever rows are grouped, the loans that they make are separate. -/
theorem areSeparate_ofRows (rows : List LoanRow) : AreSeparate (ofRows rows) := by
  induction rows with
  | nil => exact ⟨.nil, by simp [ofRows]⟩
  | cons row rows ih =>
      cases grouped : ofRows rows with
      | nil =>
          rw [ofRows_cons_of_ne row (by simp [grouped]), grouped]
          exact areSeparate_cons_iff.mpr ⟨by simp, row.addTo_isChain .nil, .nil, by simp⟩
      | cons loan loans =>
          rw [grouped] at ih
          obtain ⟨changes, partiesDiffer, later⟩ := areSeparate_cons_iff.mp ih
          by_cases same : loan.id = row.loan.id
          · rw [ofRows_cons_of_eq grouped same]
            rw [same] at changes
            exact areSeparate_cons_iff.mpr ⟨changes, row.addTo_isChain partiesDiffer, later⟩
          · have opens : ∀ other ∈ (ofRows rows).head?, other.id ≠ row.loan.id := by
              simpa [grouped] using same
            rw [ofRows_cons_of_ne row opens, grouped]
            refine areSeparate_cons_iff.mpr ⟨?_, row.addTo_isChain .nil, ih⟩
            intro other first
            cases first
            exact Ne.symm same

theorem assemble_ofLoan (loan : Loan) :
    (LoanRecord.ofLoan loan).assemble
      (loan.parties.map fun party => (PartyRecord.ofParty loan.id party, party.payments)) = loan := by
  simp [LoanRecord.assemble, LoanRecord.withParties, LoanRecord.ofLoan, Function.comp_def,
    PartyRecord.withPayments, PartyRecord.ofParty]

/-- Separate loans come back from their rows. -/
theorem ofRows_flatMap_toRows (separate : AreSeparate loans) :
    ofRows (loans.flatMap toRows) = loans := by
  induction loans with
  | nil => rfl
  | cons loan loans ih =>
      obtain ⟨changes, partiesDiffer, later⟩ := areSeparate_cons_iff.mp separate
      have grouped := ih later
      rw [List.flatMap_cons, toRows, ofRows_rows_append, grouped, assemble_ofLoan]
      · rw [List.map_map, List.isChain_map]
        exact partiesDiffer
      · intro next first
        rw [grouped] at first
        exact (changes next first).symm

/-- Loans laid out in rows one after another come back as they were exactly when no two neighbours
share an identifier, nor two neighbouring parties of any.  When they do not, not even the identifiers
of loans and parties come back. -/
theorem ofRows_flatMap_toRows_iff (loans : List Loan) :
    (ofRows (loans.flatMap toRows) = loans ↔
      (loans.IsChain fun loan next => loan.id ≠ next.id) ∧
        ∀ loan ∈ loans, loan.parties.IsChain fun party next => party.id ≠ next.id) ∧
      (ofRows (loans.flatMap toRows) ≠ loans →
        (ofRows (loans.flatMap toRows)).map outline ≠ loans.map outline) := by
  have separate_of_outline (same : (ofRows (loans.flatMap toRows)).map outline = loans.map outline) :
      AreSeparate loans :=
    (areSeparate_ofRows _).of_outline same
  refine ⟨⟨fun same => ?_, fun ⟨loansDiffer, partiesDiffer⟩ => ?_⟩, fun differs same => ?_⟩
  · have separate := separate_of_outline (congrArg (List.map outline) same)
    exact ⟨separate.loans_differ, separate.parties_differ⟩
  · exact ofRows_flatMap_toRows ⟨loansDiffer, partiesDiffer⟩
  · exact differs (ofRows_flatMap_toRows (separate_of_outline same))

end Loan

end LoanBook
