import LoanBook.Store.Basic
import LoanBook.Proofs.Failure.Steps
import LoanBook.Proofs.Identifier.Order
import LoanBook.Proofs.Loan.Grouping
import Mathlib.Data.List.Nodup
import Mathlib.Data.List.Pairwise

/-!
# Reading loans from the tables

Well-formed tables hold every loan and every party once, no party without its loan and no payment
without its party.  From such tables a query reads exactly the loans that its filter picks, each
put together from all of its rows, in the order of their identifiers.
-/

namespace LoanBook

namespace LoanFilter

/-- A filter picks a loan by its identifier, or by a party in some role. -/
def Picks (filter : LoanFilter) (loan : Loan) : Prop :=
  match filter with
  | .byLoan id => loan.id = id
  | .byBorrower user => ∃ party ∈ loan.parties, party.role = .borrower ∧ party.user = user
  | .byLender user => ∃ party ∈ loan.parties, party.role = .lender ∧ party.user = user

end LoanFilter

namespace Tables

/-- The loan that a record makes with all rows of its parties and their payments. -/
def aggregate (tables : Tables) (record : LoanRecord) : Loan :=
  record.assemble (tables.partiesOf record.id)

/-- The loan with an identifier, put together from its rows. -/
def loan? (tables : Tables) (id : LoanId) : Option Loan :=
  (tables.find? id).map tables.aggregate

/-- Loans and parties have distinct identifiers, and no row is without an owner. -/
structure WellFormed (tables : Tables) : Prop where
  loans_nodup : (tables.loans.map LoanRecord.id).Nodup
  parties_nodup : (tables.parties.map PartyRecord.id).Nodup
  party_owner : ∀ party ∈ tables.parties, party.loan ∈ tables.loans.map LoanRecord.id
  payment_owner : ∀ entry ∈ tables.payments, entry.1 ∈ tables.parties.map PartyRecord.id

@[simp]
theorem aggregate_id (tables : Tables) (record : LoanRecord) :
    (tables.aggregate record).id = record.id :=
  rfl

@[simp]
theorem find?_empty (id : LoanId) : empty.find? id = none :=
  rfl

@[simp]
theorem loan?_empty (id : LoanId) : empty.loan? id = none := by
  rw [loan?, find?_empty, Option.map_none]

theorem wellFormed_empty : empty.WellFormed where
  loans_nodup := List.nodup_nil
  parties_nodup := List.nodup_nil
  party_owner := by simp [empty]
  payment_owner := by simp [empty]

theorem id_of_find? {tables : Tables} {id : LoanId} {record : LoanRecord}
    (found : tables.find? id = some record) : record.id = id := by
  simpa using List.find?_some found

theorem id_of_loan? {tables : Tables} {id : LoanId} {loan : Loan}
    (found : tables.loan? id = some loan) : loan.id = id := by
  obtain ⟨record, recordFound, rfl⟩ := Option.map_eq_some_iff.mp found
  exact id_of_find? recordFound

/-- The columns of a stored loan are those of its record. -/
theorem exists_find?_of_loan? {tables : Tables} {id : LoanId} {loan : Loan}
    (found : tables.loan? id = some loan) :
    ∃ record, tables.find? id = some record ∧ tables.aggregate record = loan := by
  simpa only [loan?, Option.map_eq_some_iff] using found

theorem find?_eq_none_iff {tables : Tables} {id : LoanId} :
    tables.find? id = none ↔ id ∉ tables.loans.map LoanRecord.id := by
  simp [find?]

theorem loan?_eq_none_iff {tables : Tables} {id : LoanId} :
    tables.loan? id = none ↔ tables.find? id = none := by
  simp [loan?]

theorem find?_of_mem_of_nodup {tables : Tables} {record : LoanRecord}
    (nodup : (tables.loans.map LoanRecord.id).Nodup) (member : record ∈ tables.loans) :
    tables.find? record.id = some record := by
  cases found : tables.find? record.id with
  | none => exact (find?_eq_none_iff.mp found (List.mem_map_of_mem member)).elim
  | some other =>
      rw [List.inj_on_of_nodup_map nodup (List.mem_of_find?_eq_some found) member
        (id_of_find? found)]

/-- A loan that is not stored has no rows. -/
theorem join_byLoan_of_absent {tables : Tables} {id : LoanId} (absent : tables.find? id = none) :
    tables.join (.byLoan id) = [] := by
  have none : tables.loans.filter (tables.picks (.byLoan id)) = [] := by
    rw [List.filter_eq_nil_iff]
    intro record member picked
    have same : record.id = id := of_decide_eq_true picked
    exact find?_eq_none_iff.mp absent (same ▸ List.mem_map_of_mem member)
  rw [join, none, List.mergeSort_nil, List.flatMap_nil]

/-- The rows of a loan are those of its record and its parties. -/
theorem join_byLoan_of_mem {tables : Tables} {record : LoanRecord}
    (nodup : (tables.loans.map LoanRecord.id).Nodup) (member : record ∈ tables.loans) :
    tables.join (.byLoan record.id) = record.rows (tables.partiesOf record.id) := by
  have picked : tables.loans.filter (tables.picks (.byLoan record.id)) = [record] := by
    have same : tables.loans.filter (tables.picks (.byLoan record.id)) =
        tables.loans.filter fun other => other = record := by
      apply List.filter_congr
      intro other otherMem
      simp only [picks, decide_eq_decide]
      exact ⟨List.inj_on_of_nodup_map nodup otherMem member, congrArg _⟩
    rw [same, List.filter_eq, List.count_eq_one_of_mem nodup.of_map member, List.replicate_one]
  rw [join, picked, List.mergeSort_singleton, List.flatMap_singleton]

/-- A filter decides on the columns of parties what it says of the loan put together. -/
theorem picks_iff (tables : Tables) (filter : LoanFilter) (record : LoanRecord) :
    tables.picks filter record = true ↔ filter.Picks (tables.aggregate record) := by
  have party (role : PartyRole) (user : UserId) :
      tables.hasParty record.id role user = true ↔
        ∃ party ∈ (tables.aggregate record).parties, party.role = role ∧ party.user = user := by
    simp only [hasParty, List.any_eq_true, decide_eq_true_eq, aggregate, LoanRecord.assemble,
      LoanRecord.withParties, partiesOf, List.map_map, List.mem_map, List.mem_filter]
    constructor
    · rintro ⟨entry, member, owned, roleEq, userEq⟩
      exact ⟨_, ⟨entry, ⟨member, owned⟩, rfl⟩, roleEq, userEq⟩
    · rintro ⟨_, ⟨entry, ⟨member, owned⟩, rfl⟩, roleEq, userEq⟩
      exact ⟨entry, member, owned, roleEq, userEq⟩
  cases filter with
  | byLoan id => simp [picks, LoanFilter.Picks]
  | byBorrower user => exact party .borrower user
  | byLender user => exact party .lender user

theorem partiesOf_ids (tables : Tables) (id : LoanId) :
    (tables.partiesOf id).map (fun entry => entry.1.id) =
      (tables.parties.filter fun party => party.loan = id).map PartyRecord.id := by
  simp [partiesOf, Function.comp_def]

/-- The records that a filter picks, in the order of their identifiers. -/
def picked (tables : Tables) (filter : LoanFilter) : List LoanRecord :=
  (tables.loans.filter (tables.picks filter)).mergeSort fun left right => left.id ≤ right.id

theorem mem_picked {tables : Tables} {filter : LoanFilter} {record : LoanRecord} :
    record ∈ tables.picked filter ↔
      record ∈ tables.loans ∧ filter.Picks (tables.aggregate record) := by
  rw [picked, List.mem_mergeSort, List.mem_filter, picks_iff]

section WellFormed

variable {tables : Tables} (wellFormed : tables.WellFormed)
include wellFormed

theorem WellFormed.partiesOf_nodup (id : LoanId) :
    ((tables.partiesOf id).map fun entry => entry.1.id).Nodup := by
  rw [partiesOf_ids]
  exact wellFormed.parties_nodup.sublist (List.filter_sublist.map _)

theorem WellFormed.find?_of_mem {record : LoanRecord} (member : record ∈ tables.loans) :
    tables.find? record.id = some record :=
  find?_of_mem_of_nodup wellFormed.loans_nodup member

theorem WellFormed.pairwise_picked (filter : LoanFilter) :
    (tables.picked filter).Pairwise fun left right => left.id < right.id := by
  have distinct : (tables.picked filter).Pairwise fun left right => left.id ≠ right.id := by
    have nodup : ((tables.loans.filter (tables.picks filter)).map LoanRecord.id).Nodup :=
      wellFormed.loans_nodup.sublist (List.filter_sublist.map _)
    have sorted := ((List.mergeSort_perm _ fun left right : LoanRecord =>
      decide (left.id ≤ right.id)).map LoanRecord.id).nodup_iff.mpr nodup
    exact List.pairwise_map.mp sorted
  have ordered : (tables.picked filter).Pairwise fun left right => left.id ≤ right.id := by
    have sorted : ((tables.loans.filter (tables.picks filter)).mergeSort fun left right =>
        left.id ≤ right.id).Pairwise fun left right => decide (left.id ≤ right.id) = true := by
      apply List.pairwise_mergeSort
      · intro first second third firstLe secondLe
        simp only [decide_eq_true_eq, Identifier.le_def] at firstLe secondLe ⊢
        omega
      · intro first second
        simp only [Bool.or_eq_true, decide_eq_true_eq, Identifier.le_def]
        omega
    simpa only [picked, decide_eq_true_eq] using sorted
  exact (ordered.and distinct).imp fun both => Identifier.lt_of_le_of_ne both.1 both.2

/-- The joined rows spell the loans that the filter picks, each with all of its rows. -/
theorem WellFormed.ofRows_join (filter : LoanFilter) :
    Loan.ofRows (tables.join filter) = (tables.picked filter).map tables.aggregate := by
  have ordered := wellFormed.pairwise_picked filter
  apply Loan.ofRows_flatMap_rows
  · apply List.Pairwise.isChain
    rw [List.pairwise_map]
    exact ordered.imp fun less same => by
      rw [same, Identifier.lt_def] at less
      exact Nat.lt_irrefl _ less
  · intro record _
    exact (wellFormed.partiesOf_nodup record.id).isChain

/-- What is read under a filter is what is stored and picked by it. -/
theorem WellFormed.mem_ofRows_join {filter : LoanFilter} {loan : Loan} :
    loan ∈ Loan.ofRows (tables.join filter) ↔
      tables.loan? loan.id = some loan ∧ filter.Picks loan := by
  rw [wellFormed.ofRows_join, List.mem_map]
  constructor
  · rintro ⟨record, member, rfl⟩
    obtain ⟨recordMem, picked⟩ := mem_picked.mp member
    refine ⟨?_, picked⟩
    rw [loan?, aggregate_id, wellFormed.find?_of_mem recordMem]
    rfl
  · rintro ⟨stored, picked⟩
    obtain ⟨record, found, rfl⟩ := exists_find?_of_loan? stored
    exact ⟨record, mem_picked.mpr ⟨List.mem_of_find?_eq_some found, picked⟩, rfl⟩

/-- Loans are read in the strict order of their identifiers, so each is read once. -/
theorem WellFormed.pairwise_ofRows_join (filter : LoanFilter) :
    (Loan.ofRows (tables.join filter)).Pairwise fun left right => left.id < right.id := by
  rw [wellFormed.ofRows_join, List.pairwise_map]
  exact wellFormed.pairwise_picked filter

/-- Reading by an identifier gives the one loan that has it, if there is one. -/
theorem WellFormed.ofRows_join_byLoan (id : LoanId) :
    Loan.ofRows (tables.join (.byLoan id)) = (tables.loan? id).toList := by
  have members (loan : Loan) : loan ∈ Loan.ofRows (tables.join (.byLoan id)) ↔
      tables.loan? id = some loan := by
    rw [wellFormed.mem_ofRows_join]
    constructor
    · rintro ⟨stored, same⟩
      rwa [show loan.id = id from same] at stored
    · intro stored
      rw [id_of_loan? stored]
      exact ⟨stored, id_of_loan? stored⟩
  have ordered := wellFormed.pairwise_ofRows_join (.byLoan id)
  rcases read : Loan.ofRows (tables.join (.byLoan id)) with _ | ⟨first, rest⟩
  · cases stored : tables.loan? id with
    | none => rfl
    | some loan => simpa [read] using (members loan).mpr stored
  · have firstStored : tables.loan? id = some first := (members first).mp (by simp [read])
    rcases rest with _ | ⟨second, rest⟩
    · simp [firstStored]
    · have secondStored : tables.loan? id = some second := (members second).mp (by simp [read])
      rw [read, List.pairwise_cons] at ordered
      have less := ordered.1 second (by simp)
      rw [id_of_loan? firstStored, id_of_loan? secondStored, Identifier.lt_def] at less
      exact (Nat.lt_irrefl _ less).elim

/-- A stored loan is read under its identifier, alone. -/
theorem WellFormed.ofRows_join_byLoan_of_mem {record : LoanRecord}
    (member : record ∈ tables.loans) :
    Loan.ofRows (tables.join (.byLoan record.id)) = [tables.aggregate record] := by
  rw [wellFormed.ofRows_join_byLoan, loan?, wellFormed.find?_of_mem member]
  rfl

end WellFormed

end Tables

end LoanBook
