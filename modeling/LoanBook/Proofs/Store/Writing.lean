import LoanBook.Proofs.Store.Reading
import Mathlib.Logic.Function.Basic

/-!
# Writing loans to the tables

A change that nothing stands in the way of replaces one loan, seen from outside, and leaves every
other loan as it was, although the rows of all loans share three tables.  This needs the parties
that are written to have identifiers of their own.
-/

namespace LoanBook

/-- A payment as it is written with a stamp. -/
def Payment.stamped (stamp : Attestation) (payment : Payment) : Payment :=
  { payment with created := some stamp }

/-- A party as it is written with a stamp, its payments included. -/
def LoanParty.stamped (stamp : Attestation) (party : LoanParty) : LoanParty :=
  { party with payments := party.payments.map (Payment.stamped stamp), created := some stamp }

/-- A proposed loan as it is written with a stamp: its sign-offs are kept as they came. -/
def Loan.entered (stamp : Attestation) (loan : Loan) : Loan :=
  { loan with
    state := .proposed
    parties := loan.parties.map (LoanParty.stamped stamp)
    created := some stamp }

namespace LoanChange

/-- The parties that a change submits. -/
def parties : LoanChange → List LoanParty
  | propose loan => loan.parties
  | approve _ _ _ => []
  | invest _ lenders => lenders
  | disburse _ _ _ => []

/-- The loan after a change made with a stamp, from the loan before it. -/
def resulting (stamp : Attestation) (change : LoanChange) (stored : Option Loan) : Option Loan :=
  match change with
  | propose loan => some (loan.entered stamp)
  | approve _ approvedBy document => stored.map fun loan =>
      { loan with state := .approved, approval := some ⟨approvedBy, document, some stamp⟩ }
  | invest _ lenders => stored.map fun loan =>
      { loan with
        state := .invested
        parties := loan.parties ++ lenders.map (LoanParty.stamped stamp) }
  | disburse _ disbursedBy contract => stored.map fun loan =>
      { loan with
        state := .disbursed
        disbursement := some ⟨disbursedBy, contract, some stamp⟩ }

end LoanChange

namespace Tables

/-- The identifiers of the stored parties. -/
def partyIds (tables : Tables) : List PartyId :=
  tables.parties.map PartyRecord.id

/-- The parties of a change are distinct from each other and from all that are stored. -/
def IsFresh (tables : Tables) (change : LoanChange) : Prop :=
  (change.parties.map LoanParty.id ++ tables.partyIds).Nodup

/-- The rows that parties with a stamp put together to. -/
def enteredRows (loan : LoanId) (parties : List LoanParty) (stamp : Attestation) :
    List (PartyRecord × List Payment) :=
  parties.map fun party =>
    ({ PartyRecord.ofParty loan party with created := some stamp },
      party.payments.map (Payment.stamped stamp))

theorem enteredRows_withPayments (loan : LoanId) (parties : List LoanParty) (stamp : Attestation) :
    (enteredRows loan parties stamp).map (fun entry => entry.1.withPayments entry.2) =
      parties.map (LoanParty.stamped stamp) := by
  simp [enteredRows, Function.comp_def, PartyRecord.withPayments, PartyRecord.ofParty,
    LoanParty.stamped]

section UpdateLoan

variable {tables : Tables} {loan : LoanId} {update : LoanRecord → LoanRecord}
  (keeps : ∀ record, (update record).id = record.id)
include keeps

theorem updateLoan_ids :
    (tables.updateLoan loan update).loans.map LoanRecord.id = tables.loans.map LoanRecord.id := by
  simp only [updateLoan, List.map_map]
  apply List.map_congr_left
  intro record _
  by_cases same : record.id = loan
  · simp [same, keeps]
  · simp [same]

theorem find?_updateLoan (id : LoanId) :
    (tables.updateLoan loan update).find? id =
      if id = loan then (tables.find? id).map update else tables.find? id := by
  have idKept (record : LoanRecord) :
      (if record.id = loan then update record else record).id = record.id := by
    by_cases same : record.id = loan
    · simp [same, keeps]
    · simp [same]
  have moved : (tables.updateLoan loan update).find? id =
      (tables.find? id).map fun record => if record.id = loan then update record else record := by
    simp only [find?, updateLoan, List.find?_map, Function.comp_def, idKept]
  rw [moved]
  cases found : tables.find? id with
  | none => simp
  | some record =>
      have recordId := id_of_find? found
      by_cases same : id = loan
      · simp [recordId, same]
      · simp [recordId, same]

theorem loan?_updateLoan (id : LoanId) :
    (tables.updateLoan loan update).loan? id =
      if id = loan then (tables.find? id).map fun record => tables.aggregate (update record)
      else tables.loan? id := by
  rw [loan?, find?_updateLoan keeps]
  by_cases same : id = loan
  · rw [if_pos same, if_pos same, Option.map_map]
    rfl
  · rw [if_neg same, if_neg same]
    rfl

theorem WellFormed.updateLoan (wellFormed : tables.WellFormed) :
    (tables.updateLoan loan update).WellFormed where
  loans_nodup := by
    rw [updateLoan_ids keeps]
    exact wellFormed.loans_nodup
  parties_nodup := wellFormed.parties_nodup
  party_owner := by
    rw [updateLoan_ids keeps]
    exact wellFormed.party_owner
  payment_owner := wellFormed.payment_owner

end UpdateLoan

/-- Of the payments of several parties, one party's are found under its identifier. -/
theorem payments_of_party {parties : List LoanParty} {party : LoanParty} (stamp : Attestation)
    (nodup : (parties.map LoanParty.id).Nodup) (member : party ∈ parties) :
    ((parties.flatMap fun party => party.payments.map fun payment =>
        (party.id, payment.stamped stamp)).filter fun entry => entry.1 = party.id).map Prod.snd =
      party.payments.map (Payment.stamped stamp) := by
  induction parties with
  | nil => simp at member
  | cons first parties ih =>
      rw [List.map_cons, List.nodup_cons] at nodup
      rw [List.flatMap_cons, List.filter_append, List.map_append]
      rcases List.mem_cons.mp member with rfl | later
      · have none : (parties.flatMap fun other => other.payments.map fun payment =>
            (other.id, payment.stamped stamp)).filter (fun entry => entry.1 = party.id) = [] := by
          rw [List.filter_eq_nil_iff]
          intro entry entryMem owned
          simp only [List.mem_flatMap, List.mem_map] at entryMem
          obtain ⟨other, otherMem, payment, _, rfl⟩ := entryMem
          simp only [decide_eq_true_eq] at owned
          exact nodup.1 (owned ▸ List.mem_map_of_mem otherMem)
        rw [none]
        simp [List.filter_map, Function.comp_def]
      · have other : first.id ≠ party.id := fun same =>
          nodup.1 (same ▸ List.mem_map_of_mem later)
        rw [ih nodup.2 later]
        simp [List.filter_map, Function.comp_def, other]

section InsertParties

variable {tables : Tables} {loan : LoanId} {parties : List LoanParty} {stamp : Attestation}

@[simp]
theorem find?_insertParties (id : LoanId) :
    (tables.insertParties loan parties stamp).find? id = tables.find? id :=
  rfl

/-- Parties that are inserted come after those of their loan and touch no other loan. -/
theorem WellFormed.partiesOf_insertParties (wellFormed : tables.WellFormed)
    (fresh : (parties.map LoanParty.id ++ tables.partyIds).Nodup) (id : LoanId) :
    (tables.insertParties loan parties stamp).partiesOf id =
      tables.partiesOf id ++ if id = loan then enteredRows loan parties stamp else [] := by
  rw [List.nodup_append'] at fresh
  obtain ⟨distinct, _, disjoint⟩ := fresh
  simp only [partiesOf, insertParties, List.filter_append, List.map_append]
  congr 1
  · apply List.map_congr_left
    intro party member
    have stored : party.id ∈ tables.partyIds :=
      List.mem_map_of_mem (List.mem_of_mem_filter member)
    have none : ((parties.flatMap fun other => other.payments.map fun payment =>
        (other.id, { payment with created := some stamp })).filter
          fun entry => entry.1 = party.id) = [] := by
      rw [List.filter_eq_nil_iff]
      intro entry entryMem owned
      simp only [List.mem_flatMap, List.mem_map] at entryMem
      obtain ⟨other, otherMem, payment, _, rfl⟩ := entryMem
      simp only [decide_eq_true_eq] at owned
      exact disjoint (List.mem_map_of_mem otherMem) (owned ▸ stored)
    rw [none, List.map_nil, List.append_nil]
  · by_cases same : id = loan
    · subst same
      rw [if_pos rfl, List.filter_eq_self.mpr (by simp [PartyRecord.ofParty]), List.map_map]
      apply List.map_congr_left
      intro party member
      have none : (tables.payments.filter fun entry => entry.1 = party.id) = [] := by
        rw [List.filter_eq_nil_iff]
        intro entry entryMem owned
        simp only [decide_eq_true_eq] at owned
        exact disjoint (List.mem_map_of_mem member)
          (owned ▸ wellFormed.payment_owner entry entryMem)
      have own := payments_of_party stamp distinct member
      simp only [Function.comp_apply, PartyRecord.ofParty, none, List.map_nil, List.nil_append]
      exact congrArg _ own
    · rw [if_neg same, List.filter_eq_nil_iff.mpr, List.map_nil]
      simp [PartyRecord.ofParty, Ne.symm same]

theorem WellFormed.insertParties (wellFormed : tables.WellFormed)
    (fresh : (parties.map LoanParty.id ++ tables.partyIds).Nodup)
    (stored : parties ≠ [] → loan ∈ tables.loans.map LoanRecord.id) :
    (tables.insertParties loan parties stamp).WellFormed where
  loans_nodup := wellFormed.loans_nodup
  parties_nodup := by
    have ids : (tables.insertParties loan parties stamp).parties.map PartyRecord.id =
        tables.partyIds ++ parties.map LoanParty.id := by
      simp [Tables.insertParties, partyIds, PartyRecord.ofParty, Function.comp_def]
    rw [ids]
    exact List.perm_append_comm.nodup_iff.mp fresh
  party_owner := by
    intro party member
    simp only [Tables.insertParties, List.mem_append, List.mem_map] at member ⊢
    rcases member with old | ⟨new, newMem, rfl⟩
    · exact List.mem_map.mp (wellFormed.party_owner party old)
    · exact List.mem_map.mp (stored (List.ne_nil_of_mem newMem))
  payment_owner := by
    intro entry member
    simp only [Tables.insertParties, List.mem_append, List.mem_flatMap, List.mem_map,
      List.map_append] at member ⊢
    rcases member with old | ⟨party, partyMem, payment, _, rfl⟩
    · exact Or.inl (List.mem_map.mp (wellFormed.payment_owner entry old))
    · exact Or.inr ⟨_, ⟨party, partyMem, rfl⟩, rfl⟩

theorem WellFormed.loan?_insertParties (wellFormed : tables.WellFormed)
    (fresh : (parties.map LoanParty.id ++ tables.partyIds).Nodup) (id : LoanId) :
    (tables.insertParties loan parties stamp).loan? id =
      (tables.loan? id).map fun stored =>
        if id = loan then
          { stored with parties := stored.parties ++ parties.map (LoanParty.stamped stamp) }
        else stored := by
  rw [loan?, find?_insertParties, loan?, Option.map_map]
  cases found : tables.find? id with
  | none => rfl
  | some record =>
      have recordId := id_of_find? found
      simp only [Option.map_some, Function.comp_apply, aggregate, LoanRecord.assemble, recordId,
        wellFormed.partiesOf_insertParties fresh]
      by_cases same : id = loan
      · simp [same, enteredRows_withPayments, LoanRecord.withParties]
      · simp [same]

end InsertParties

theorem loan?_map_state (tables : Tables) (id : LoanId) :
    (tables.loan? id).map Loan.state = (tables.find? id).map LoanRecord.state := by
  rw [loan?, Option.map_map]
  rfl

/-- A change may be made when its loan is in the state before, or not there for a proposal. -/
theorem obstacle?_eq_none_iff {tables : Tables} {change : LoanChange} :
    tables.obstacle? change = none ↔
      (tables.loan? change.loanId).map Loan.state = change.required? := by
  rw [loan?_map_state, obstacle?]
  cases tables.find? change.loanId with
  | none => cases change.required? <;> simp
  | some stored =>
      cases change.required? with
      | none => simp
      | some required =>
          by_cases same : stored.state = required
          · simp [same]
          · simp [same]

theorem WellFormed.partiesOf_of_absent {tables : Tables} (wellFormed : tables.WellFormed)
    {id : LoanId} (absent : tables.find? id = none) : tables.partiesOf id = [] := by
  have none : (tables.parties.filter fun party => party.loan = id) = [] := by
    rw [List.filter_eq_nil_iff]
    intro party member owned
    simp only [decide_eq_true_eq] at owned
    exact find?_eq_none_iff.mp absent (owned ▸ wellFormed.party_owner party member)
  rw [partiesOf, none, List.map_nil]

section AppendLoan

variable {tables : Tables} (record : LoanRecord) (absent : tables.find? record.id = none)
include absent

theorem loans_nodup_append (nodup : (tables.loans.map LoanRecord.id).Nodup) :
    ((tables.loans ++ [record]).map LoanRecord.id).Nodup := by
  rw [List.map_append, List.map_singleton]
  apply List.Nodup.append nodup (List.nodup_singleton _)
  rw [List.disjoint_singleton]
  exact find?_eq_none_iff.mp absent

theorem find?_appendLoan :
    find? { tables with loans := tables.loans ++ [record] } record.id = some record := by
  rw [find?, List.find?_append, ← find?, absent]
  simp

theorem WellFormed.appendLoan (wellFormed : tables.WellFormed) :
    WellFormed { tables with loans := tables.loans ++ [record] } where
  loans_nodup := loans_nodup_append record absent wellFormed.loans_nodup
  parties_nodup := wellFormed.parties_nodup
  party_owner := by
    intro party member
    rw [List.map_append]
    exact List.mem_append_left _ (wellFormed.party_owner party member)
  payment_owner := wellFormed.payment_owner

theorem WellFormed.loan?_appendLoan (wellFormed : tables.WellFormed) (id : LoanId) :
    loan? { tables with loans := tables.loans ++ [record] } id =
      if id = record.id then some (record.withParties []) else tables.loan? id := by
  by_cases same : id = record.id
  · subst same
    have found := find?_appendLoan record absent
    rw [if_pos rfl, loan?, found, Option.map_some]
    have none := wellFormed.partiesOf_of_absent absent
    rw [partiesOf] at none
    simp [aggregate, LoanRecord.assemble, partiesOf, none]
  · have found : find? { tables with loans := tables.loans ++ [record] } id = tables.find? id := by
      rw [find?, List.find?_append, ← find?]
      simp [Ne.symm same]
    rw [if_neg same, loan?, found]
    rfl

end AppendLoan

theorem absent_of_propose {tables : Tables} {loan : Loan}
    (allowed : tables.obstacle? (.propose loan) = none) : tables.find? loan.id = none := by
  rw [obstacle?_eq_none_iff, loan?_map_state] at allowed
  exact Option.map_eq_none_iff.mp allowed

/-- The columns of a proposed loan are those that were submitted, its sign-offs among them. -/
theorem find?_write_propose {tables : Tables} {loan : Loan} (absent : tables.find? loan.id = none)
    (stamp : Attestation) :
    (tables.write stamp (.propose loan)).find? loan.id =
      some { LoanRecord.ofLoan loan with state := .proposed, created := some stamp } :=
  find?_appendLoan { LoanRecord.ofLoan loan with state := .proposed, created := some stamp } absent

/-- A change that is no proposal may be made of a stored loan only. -/
theorem loanId_mem_of_allowed {tables : Tables} {change : LoanChange}
    (allowed : tables.obstacle? change = none) (follows : change.required? ≠ none) :
    change.loanId ∈ tables.loans.map LoanRecord.id := by
  by_contra absent
  rw [obstacle?_eq_none_iff, loan?_map_state, find?_eq_none_iff.mpr absent] at allowed
  exact follows allowed.symm

/-- What is written of a loan is found under its identifier. -/
theorem loanId_mem_write {tables : Tables} {change : LoanChange}
    (allowed : tables.obstacle? change = none) (stamp : Attestation) :
    change.loanId ∈ (tables.write stamp change).loans.map LoanRecord.id := by
  cases change with
  | propose loan => simp [write, insertParties, LoanRecord.ofLoan, LoanChange.loanId]
  | approve loan approvedBy document =>
      rw [write, updateLoan_ids]
      · exact loanId_mem_of_allowed allowed (Option.some_ne_none _)
      · exact fun _ => rfl
  | invest loan lenders =>
      show loan ∈ (tables.updateLoan loan _).loans.map LoanRecord.id
      rw [updateLoan_ids]
      · exact loanId_mem_of_allowed allowed (Option.some_ne_none _)
      · exact fun _ => rfl
  | disburse loan disbursedBy contract =>
      rw [write, updateLoan_ids]
      · exact loanId_mem_of_allowed allowed (Option.some_ne_none _)
      · exact fun _ => rfl

section Write

variable {tables : Tables} {change : LoanChange} (wellFormed : tables.WellFormed)
  (allowed : tables.obstacle? change = none) (fresh : tables.IsFresh change) (stamp : Attestation)
include wellFormed allowed fresh

/-- Writing a change gives its loan the resulting value and keeps all other loans. -/
theorem WellFormed.loan?_write (id : LoanId) :
    (tables.write stamp change).loan? id =
      if id = change.loanId then change.resulting stamp (tables.loan? id)
      else tables.loan? id := by
  cases change with
  | propose loan =>
      have absent : tables.find? loan.id = none := absent_of_propose allowed
      let record := { LoanRecord.ofLoan loan with state := .proposed, created := some stamp }
      have fresh : (loan.parties.map LoanParty.id ++ tables.partyIds).Nodup := fresh
      have appended := wellFormed.appendLoan record absent
      refine (appended.loan?_insertParties fresh id).trans ?_
      rw [wellFormed.loan?_appendLoan record absent]
      by_cases same : id = loan.id
      · simp [record, same, LoanChange.loanId, LoanChange.resulting, LoanRecord.withParties,
          LoanRecord.ofLoan, Loan.entered]
      · simp [record, same, LoanChange.loanId, LoanRecord.ofLoan]
  | approve loan approvedBy document =>
      rw [write, loan?_updateLoan]
      · simp only [LoanChange.loanId, LoanChange.resulting, loan?, Option.map_map]
        rfl
      · intro record
        rfl
  | invest loan lenders =>
      let update : LoanRecord → LoanRecord := fun record => { record with state := .invested }
      have keeps (record : LoanRecord) : (update record).id = record.id := rfl
      have fresh : (lenders.map LoanParty.id ++ tables.partyIds).Nodup := fresh
      have updated : (tables.updateLoan loan update).WellFormed := wellFormed.updateLoan keeps
      refine (updated.loan?_insertParties fresh id).trans ?_
      rw [loan?_updateLoan keeps]
      by_cases same : id = loan
      · simp only [same, LoanChange.loanId, LoanChange.resulting, loan?, Option.map_map,
          Function.comp_def, if_true]
        rfl
      · simp [same, LoanChange.loanId]
  | disburse loan disbursedBy contract =>
      rw [write, loan?_updateLoan]
      · simp only [LoanChange.loanId, LoanChange.resulting, loan?, Option.map_map]
        rfl
      · intro record
        rfl

theorem WellFormed.write : (tables.write stamp change).WellFormed := by
  cases change with
  | propose loan =>
      refine WellFormed.insertParties (wellFormed.appendLoan _ ?_) fresh ?_
      · exact absent_of_propose allowed
      · intro _
        simp [LoanRecord.ofLoan]
  | approve loan approvedBy document =>
      apply WellFormed.updateLoan _ wellFormed
      intro record
      rfl
  | invest loan lenders =>
      have ids : (tables.updateLoan loan fun record =>
          { record with state := .invested }).loans.map LoanRecord.id =
            tables.loans.map LoanRecord.id :=
        updateLoan_ids fun _ => rfl
      refine WellFormed.insertParties (WellFormed.updateLoan (fun _ => ?_) wellFormed) fresh ?_
      · rfl
      · intro _
        rw [ids]
        exact loanId_mem_of_allowed allowed (Option.some_ne_none _)
  | disburse loan disbursedBy contract =>
      apply WellFormed.updateLoan _ wellFormed
      intro record
      rfl

end Write

theorem partyIds_write (tables : Tables) (stamp : Attestation) (change : LoanChange) :
    (tables.write stamp change).partyIds =
      tables.partyIds ++ change.parties.map LoanParty.id := by
  cases change with
  | propose loan =>
      simp [write, insertParties, partyIds, LoanChange.parties, PartyRecord.ofParty,
        Function.comp_def]
  | approve loan approvedBy document =>
      simp [write, updateLoan, partyIds, LoanChange.parties]
  | invest loan lenders =>
      simp [write, updateLoan, insertParties, partyIds, LoanChange.parties, PartyRecord.ofParty,
        Function.comp_def]
  | disburse loan disbursedBy contract =>
      simp [write, updateLoan, partyIds, LoanChange.parties]

end Tables

end LoanBook
