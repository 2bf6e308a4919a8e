import LoanBook.Proofs.Store.Atomicity
import Mathlib.Data.List.Perm.Basic

/-!
# Replaced attestations

An attestation is stored in a column of one row, of a loan, a party or a payment, and belongs to the
loan that the row belongs to.  Replacing it by one that the signer refuses changes what queries say
of that loan and of no other: a query that picks the loan answers with an invalid signature, and any
other query answers as before.
-/

namespace LoanBook

/-- A column of a row of the tables that holds an attestation. -/
inductive AttestationPlace where
  | loan (row : Nat)
  | approval (row : Nat)
  | disbursement (row : Nat)
  | party (row : Nat)
  | payment (row : Nat)
deriving DecidableEq

namespace Tables

/-- The attestation stored in a place. -/
def attestation? (tables : Tables) : AttestationPlace → Option Attestation
  | .loan row => tables.loans[row]?.bind LoanRecord.created
  | .approval row =>
    tables.loans[row]?.bind fun record => record.approval.bind Approval.attested
  | .disbursement row =>
    tables.loans[row]?.bind fun record => record.disbursement.bind Disbursement.attested
  | .party row => tables.parties[row]?.bind PartyRecord.created
  | .payment row => tables.payments[row]?.bind fun entry => entry.2.created

/-- The loan that the row of a place belongs to; that of a payment is the loan of its party. -/
def owner? (tables : Tables) : AttestationPlace → Option LoanId
  | .loan row | .approval row | .disbursement row => tables.loans[row]?.map LoanRecord.id
  | .party row => tables.parties[row]?.map PartyRecord.loan
  | .payment row => tables.payments[row]?.bind fun entry =>
    (tables.parties.find? fun party => party.id = entry.1).map PartyRecord.loan

/-- The tables with the attestation in a place replaced. -/
def tamper (tables : Tables) (forged : Attestation) : AttestationPlace → Tables
  | .loan row =>
    { tables with
      loans := tables.loans.modify row fun record => { record with created := some forged } }
  | .approval row =>
    { tables with
      loans := tables.loans.modify row fun record =>
        { record with
          approval := record.approval.map fun approval =>
            { approval with attested := some forged } } }
  | .disbursement row =>
    { tables with
      loans := tables.loans.modify row fun record =>
        { record with
          disbursement := record.disbursement.map fun disbursement =>
            { disbursement with attested := some forged } } }
  | .party row =>
    { tables with
      parties := tables.parties.modify row fun party => { party with created := some forged } }
  | .payment row =>
    { tables with
      payments := tables.payments.modify row fun entry => (entry.1, entry.2.stamped forged) }

/-- The tables have the same rows, up to attestations and to what is written in loans and payments. -/
structure SameKeys (tables altered : Tables) : Prop where
  loans : altered.loans.map LoanRecord.id = tables.loans.map LoanRecord.id
  parties : altered.parties.map (fun party => { party with created := none }) =
    tables.parties.map fun party => { party with created := none }
  payments : altered.payments.map Prod.fst = tables.payments.map Prod.fst

theorem map_modify_of_keeps {α β : Type} {key : α → β} {update : α → α}
    (keeps : ∀ entry, key (update entry) = key entry) (rows : List α) (row : Nat) :
    (rows.modify row update).map key = rows.map key := by
  apply List.ext_getElem?
  intro index
  rw [List.getElem?_map, List.getElem?_modify, List.getElem?_map]
  by_cases here : row = index
  · simp [here, Function.comp_def, keeps]
  · simp [here]

theorem sameKeys_tamper (tables : Tables) (forged : Attestation) (place : AttestationPlace) :
    tables.SameKeys (tables.tamper forged place) := by
  cases place with
  | loan row =>
      refine ⟨map_modify_of_keeps ?_ tables.loans row, rfl, rfl⟩
      exact fun _ => rfl
  | approval row =>
      refine ⟨map_modify_of_keeps ?_ tables.loans row, rfl, rfl⟩
      exact fun _ => rfl
  | disbursement row =>
      refine ⟨map_modify_of_keeps ?_ tables.loans row, rfl, rfl⟩
      exact fun _ => rfl
  | party row =>
      refine ⟨rfl, map_modify_of_keeps ?_ tables.parties row, rfl⟩
      exact fun _ => rfl
  | payment row =>
      refine ⟨rfl, rfl, map_modify_of_keeps ?_ tables.payments row⟩
      exact fun _ => rfl

section SameKeys

variable {tables altered : Tables} (same : tables.SameKeys altered)
include same

theorem SameKeys.parties_map {β : Type} (key : PartyRecord → β)
    (ignores : ∀ party, key { party with created := none } = key party) :
    altered.parties.map key = tables.parties.map key := by
  have mapped := congrArg (List.map key) same.parties
  rw [List.map_map, List.map_map] at mapped
  simpa only [Function.comp_def, ignores] using mapped

theorem SameKeys.wellFormed (wellFormed : tables.WellFormed) : altered.WellFormed where
  loans_nodup := same.loans ▸ wellFormed.loans_nodup
  parties_nodup := by
    rw [same.parties_map PartyRecord.id fun _ => rfl]
    exact wellFormed.parties_nodup
  party_owner := by
    rw [← List.forall_mem_map (P := (· ∈ altered.loans.map LoanRecord.id)),
      same.parties_map PartyRecord.loan fun _ => rfl, same.loans, List.forall_mem_map]
    exact wellFormed.party_owner
  payment_owner := by
    rw [← List.forall_mem_map (P := (· ∈ altered.parties.map PartyRecord.id)), same.payments,
      same.parties_map PartyRecord.id fun _ => rfl, List.forall_mem_map]
    exact wellFormed.payment_owner

/-- What a filter picks is told by the keys. -/
theorem SameKeys.picks_eq (filter : LoanFilter) {record changed : LoanRecord}
    (idEq : changed.id = record.id) :
    altered.picks filter changed = tables.picks filter record := by
  have party (role : PartyRole) (user : UserId) :
      altered.hasParty changed.id role user = tables.hasParty record.id role user := by
    have any_eq (tables : Tables) : tables.hasParty record.id role user =
        (tables.parties.map fun party => (party.loan, party.role, party.user)).any
          fun key => key.1 = record.id ∧ key.2.1 = role ∧ key.2.2 = user := by
      simp [hasParty, List.any_map, Function.comp_def]
    rw [idEq, any_eq, any_eq, same.parties_map _ fun _ => rfl]
  cases filter with
  | byLoan id => rw [picks, picks, idEq]
  | byBorrower user => exact party .borrower user
  | byLender user => exact party .lender user

theorem SameKeys.picks_aggregate_iff (filter : LoanFilter) {record changed : LoanRecord}
    (idEq : changed.id = record.id) :
    filter.Picks (altered.aggregate changed) ↔ filter.Picks (tables.aggregate record) := by
  rw [← picks_iff, ← picks_iff, same.picks_eq filter idEq]

end SameKeys

/-- A table with one row changed, around that row. -/
theorem exists_modify_eq {α : Type} {rows : List α} {row : Nat} {entry : α}
    (found : rows[row]? = some entry) (update : α → α) :
    ∃ before after, rows = before ++ entry :: after ∧
      rows.modify row update = before ++ update entry :: after := by
  obtain ⟨inRange, same⟩ := List.getElem?_eq_some_iff.mp found
  obtain ⟨before, other, after, rowsEq, length, modified⟩ := List.exists_of_modify update inRange
  subst rowsEq
  have otherEq : other = entry := by simpa [← length] using same
  subst otherEq
  exact ⟨before, after, rfl, modified⟩

/-- The tables differ in one loan only, which is picked by the same filters in both, but has one
attestation replaced by another. -/
structure Reseals (owner : LoanId) (original forged : Attestation) (tables altered : Tables) :
    Prop where
  others : ∀ id, id ≠ owner → altered.loan? id = tables.loan? id
  own : ∃ record changed, tables.find? owner = some record ∧ altered.find? owner = some changed ∧
    (tables.aggregate record).Carries original ∧ (altered.aggregate changed).Carries forged

section Reseals

variable {tables : Tables} (wellFormed : tables.WellFormed) {original forged : Attestation}
include wellFormed

/-- Replacing an attestation in the columns of a loan. -/
theorem WellFormed.reseals_loan {row : Nat} {record : LoanRecord} {update : LoanRecord → LoanRecord}
    (found : tables.loans[row]? = some record) (keeps : ∀ record, (update record).id = record.id)
    (before : ∀ parties, (record.withParties parties).Carries original)
    (after : ∀ parties, ((update record).withParties parties).Carries forged) :
    Reseals record.id original forged tables
      { tables with loans := tables.loans.modify row update } := by
  obtain ⟨rowsBefore, rowsAfter, rowsEq, modified⟩ := exists_modify_eq found update
  have keys : tables.SameKeys { tables with loans := tables.loans.modify row update } :=
    ⟨map_modify_of_keeps keeps _ row, rfl, rfl⟩
  constructor
  · intro id other
    have same : find? { tables with loans := tables.loans.modify row update } id =
        tables.find? id := by
      simp only [find?]
      rw [modified, rowsEq]
      simp [List.find?_append, keeps, Ne.symm other]
    rw [loan?, same]
    rfl
  · have stored := wellFormed.find?_of_mem (List.mem_of_getElem? found)
    have member : update record ∈ tables.loans.modify row update := by
      rw [modified]
      simp
    have changed := (keys.wellFormed wellFormed).find?_of_mem member
    rw [keeps] at changed
    exact ⟨_, _, stored, changed, before _, after _⟩

/-- Replacing an attestation on one party of a loan, in its columns or on a payment of it. -/
theorem WellFormed.reseals_of_partiesOf {altered : Tables} {owner : LoanId}
    (loans : altered.loans = tables.loans)
    (others : ∀ id, id ≠ owner → altered.partiesOf id = tables.partiesOf id)
    (before : ∃ entry ∈ tables.partiesOf owner, (entry.1.withPayments entry.2).Carries original)
    (after : ∃ entry ∈ altered.partiesOf owner, (entry.1.withPayments entry.2).Carries forged) :
    Reseals owner original forged tables altered := by
  have find?_eq (id : LoanId) : altered.find? id = tables.find? id := by rw [find?, find?, loans]
  have carries_aggregate (tables : Tables) {record : LoanRecord} {attestation : Attestation}
      (idEq : record.id = owner) (onParty : ∃ entry ∈ tables.partiesOf owner,
        (entry.1.withPayments entry.2).Carries attestation) :
      (tables.aggregate record).Carries attestation := by
    obtain ⟨entry, entryMem, carried⟩ := onParty
    refine .party ?_ carried
    rw [aggregate, idEq]
    exact List.mem_map_of_mem entryMem
  constructor
  · intro id other
    rw [loan?, loan?, find?_eq]
    cases found : tables.find? id with
    | none => rfl
    | some record =>
        simp only [Option.map_some, aggregate, id_of_find? found, others id other]
  · obtain ⟨entry, entryMem, _⟩ := id before
    obtain ⟨party, partyMem, rfl⟩ := List.mem_map.mp entryMem
    obtain ⟨stored, owned⟩ := List.mem_filter.mp partyMem
    have listed := wellFormed.party_owner party stored
    rw [show party.loan = owner by simpa using owned] at listed
    obtain ⟨record, recordMem, idEq⟩ := List.mem_map.mp listed
    have found := wellFormed.find?_of_mem recordMem
    rw [idEq] at found
    exact ⟨record, record, found, (find?_eq owner).trans found, carries_aggregate _ idEq before,
      carries_aggregate _ idEq after⟩

theorem WellFormed.reseals_party {row : Nat} {party : PartyRecord}
    (found : tables.parties[row]? = some party) (created : party.created = some original) :
    Reseals party.loan original forged tables (tables.tamper forged (.party row)) := by
  let changed : PartyRecord := { party with created := some forged }
  obtain ⟨before, after, rowsEq, modified⟩ :=
    exists_modify_eq found fun party => { party with created := some forged }
  have partiesEq : (tables.tamper forged (.party row)).parties = before ++ changed :: after :=
    modified
  refine wellFormed.reseals_of_partiesOf rfl ?_ ?_ ?_
  · intro id other
    simp only [partiesOf]
    rw [partiesEq, rowsEq]
    simp [changed, Ne.symm other]
    rfl
  · refine ⟨_, List.mem_map_of_mem (List.mem_filter.mpr ⟨List.mem_of_getElem? found, ?_⟩),
      .created created⟩
    simp
  · have member : changed ∈ (tables.tamper forged (.party row)).parties := by
      rw [partiesEq]
      simp
    refine ⟨_, List.mem_map_of_mem (List.mem_filter.mpr ⟨member, ?_⟩), .created rfl⟩
    simp [changed]

theorem WellFormed.reseals_payment {row : Nat} {entry : PartyId × Payment} {party : PartyRecord}
    (found : tables.payments[row]? = some entry)
    (owner : tables.parties.find? (fun party => party.id = entry.1) = some party)
    (created : entry.2.created = some original) :
    Reseals party.loan original forged tables (tables.tamper forged (.payment row)) := by
  obtain ⟨before, after, rowsEq, modified⟩ :=
    exists_modify_eq found fun entry => (entry.1, entry.2.stamped forged)
  have paymentsEq : (tables.tamper forged (.payment row)).payments =
      before ++ (entry.1, entry.2.stamped forged) :: after := modified
  have partyId : party.id = entry.1 := by simpa using List.find?_some owner
  have partyMem := List.mem_of_find?_eq_some owner
  have listed : party ∈ tables.parties.filter fun party' => party'.loan = party.loan :=
    List.mem_filter.mpr ⟨partyMem, by simp⟩
  refine wellFormed.reseals_of_partiesOf rfl ?_ ?_ ?_
  · intro id other
    apply List.map_congr_left
    intro next member
    obtain ⟨nextMem, nextOwned⟩ := List.mem_filter.mp member
    have different : entry.1 ≠ next.id := by
      intro same
      have nextEq : next = party := List.inj_on_of_nodup_map wellFormed.parties_nodup nextMem
        partyMem (same.symm.trans partyId.symm)
      subst nextEq
      exact other (of_decide_eq_true nextOwned).symm
    rw [paymentsEq, rowsEq]
    simp [different]
  · refine ⟨_, List.mem_map_of_mem listed, .payment ?_ created⟩
    rw [rowsEq]
    simp [partyId, PartyRecord.withPayments]
  · have replaced : (entry.2.stamped forged).created = some forged := rfl
    refine ⟨_, List.mem_map_of_mem listed, .payment ?_ replaced⟩
    rw [paymentsEq]
    simp [partyId, PartyRecord.withPayments]

/-- Every stored attestation is on a loan, and replacing it replaces it there and nowhere else. -/
theorem WellFormed.reseals_tamper {place : AttestationPlace}
    (stored : tables.attestation? place = some original) (forged : Attestation) :
    ∃ owner, tables.owner? place = some owner ∧
      Reseals owner original forged tables (tables.tamper forged place) := by
  cases place with
  | loan row =>
      obtain ⟨record, found, created⟩ := Option.bind_eq_some_iff.mp stored
      refine ⟨record.id, congrArg (Option.map LoanRecord.id) found,
        wellFormed.reseals_loan found ?_ ?_ ?_⟩
      · exact fun _ => rfl
      · exact fun _ => .created created
      · exact fun _ => .created rfl
  | approval row =>
      obtain ⟨record, found, attested⟩ := Option.bind_eq_some_iff.mp stored
      obtain ⟨approval, approved, attested⟩ := Option.bind_eq_some_iff.mp attested
      refine ⟨record.id, congrArg (Option.map LoanRecord.id) found,
        wellFormed.reseals_loan found ?_ ?_ ?_⟩
      · exact fun _ => rfl
      · exact fun _ => .approval approved attested
      · exact fun _ => .approval (congrArg (Option.map _) approved) rfl
  | disbursement row =>
      obtain ⟨record, found, attested⟩ := Option.bind_eq_some_iff.mp stored
      obtain ⟨disbursement, disbursed, attested⟩ := Option.bind_eq_some_iff.mp attested
      refine ⟨record.id, congrArg (Option.map LoanRecord.id) found,
        wellFormed.reseals_loan found ?_ ?_ ?_⟩
      · exact fun _ => rfl
      · exact fun _ => .disbursement disbursed attested
      · exact fun _ => .disbursement (congrArg (Option.map _) disbursed) rfl
  | party row =>
      obtain ⟨party, found, created⟩ := Option.bind_eq_some_iff.mp stored
      exact ⟨party.loan, congrArg (Option.map PartyRecord.loan) found,
        wellFormed.reseals_party found created⟩
  | payment row =>
      obtain ⟨entry, found, created⟩ := Option.bind_eq_some_iff.mp stored
      have listed := wellFormed.payment_owner entry (List.mem_of_getElem? found)
      cases owner : tables.parties.find? fun party => party.id = entry.1 with
      | none =>
          obtain ⟨party, partyMem, same⟩ := List.mem_map.mp listed
          simpa [same] using List.find?_eq_none.mp owner party partyMem
      | some party =>
          refine ⟨party.loan, ?_, wellFormed.reseals_payment found owner created⟩
          rw [owner?, found, Option.bind_some, owner, Option.map_some]

end Reseals

/-- Tables from which a filter reads the same loans give them in the same order. -/
theorem WellFormed.ofRows_join_congr {tables altered : Tables} (wellFormed : tables.WellFormed)
    (alteredWellFormed : altered.WellFormed) {filter : LoanFilter}
    (same : ∀ loan, loan ∈ Loan.ofRows (altered.join filter) ↔
      loan ∈ Loan.ofRows (tables.join filter)) :
    Loan.ofRows (altered.join filter) = Loan.ofRows (tables.join filter) := by
  have ordered := wellFormed.pairwise_ofRows_join filter
  have alteredOrdered := alteredWellFormed.pairwise_ofRows_join filter
  have distinct {first second : Loan} (less : first.id < second.id) : first ≠ second := by
    rintro rfl
    exact Nat.lt_irrefl _ (Identifier.lt_def.mp less)
  have permuted := (List.perm_ext_iff_of_nodup (alteredOrdered.imp distinct)
    (ordered.imp distinct)).mpr same
  apply permuted.eq_of_pairwise _ alteredOrdered ordered
  intro first second _ _ less greater
  exact (Nat.lt_asymm (Identifier.lt_def.mp less) (Identifier.lt_def.mp greater)).elim

section Reseals

variable {tables altered : Tables} {owner : LoanId} {original forged : Attestation}
  (reseals : Reseals owner original forged tables altered) (keys : tables.SameKeys altered)
  (wellFormed : tables.WellFormed)
include reseals keys wellFormed

/-- A filter that picks the loan reads it with the attestation replaced. -/
theorem Reseals.exists_read {filter : LoanFilter} {loan : Loan}
    (stored : tables.loan? owner = some loan) (picked : filter.Picks loan) :
    ∃ changed ∈ Loan.ofRows (altered.join filter), changed.Carries forged := by
  obtain ⟨record, changed, found, foundChanged, _, onChanged⟩ := reseals.own
  obtain ⟨_, foundLoan, rfl⟩ := exists_find?_of_loan? stored
  cases found.symm.trans foundLoan
  have idEq := id_of_find? foundChanged
  refine ⟨altered.aggregate changed, ?_, onChanged⟩
  rw [(keys.wellFormed wellFormed).mem_ofRows_join, aggregate_id, idEq]
  exact ⟨congrArg (Option.map altered.aggregate) foundChanged,
    (keys.picks_aggregate_iff filter (idEq.trans (id_of_find? found).symm)).mpr picked⟩

/-- A filter that does not pick the loan reads what it read before. -/
theorem Reseals.ofRows_join_eq {filter : LoanFilter} {loan : Loan}
    (stored : tables.loan? owner = some loan) (unpicked : ¬ filter.Picks loan) :
    Loan.ofRows (altered.join filter) = Loan.ofRows (tables.join filter) := by
  apply wellFormed.ofRows_join_congr (keys.wellFormed wellFormed)
  intro other
  rw [(keys.wellFormed wellFormed).mem_ofRows_join, wellFormed.mem_ofRows_join]
  by_cases own : other.id = owner
  · -- the loan of the replaced attestation is picked neither before nor after
    obtain ⟨record, changed, found, foundChanged, _⟩ := reseals.own
    obtain ⟨_, foundLoan, rfl⟩ := exists_find?_of_loan? stored
    cases found.symm.trans foundLoan
    have idEq := (id_of_find? foundChanged).trans (id_of_find? found).symm
    have unpickedChanged : ¬ filter.Picks (altered.aggregate changed) := by
      rwa [keys.picks_aggregate_iff filter idEq]
    rw [own, stored, loan?, foundChanged, Option.map_some, Option.some.injEq, Option.some.injEq]
    constructor
    · rintro ⟨rfl, picked⟩
      exact (unpickedChanged picked).elim
    · rintro ⟨rfl, picked⟩
      exact (unpicked picked).elim
  · rw [reseals.others other.id own]

end Reseals

end Tables

namespace Store

variable {store : Store} (wellFormed : store.tables.WellFormed)
  (verified : ∀ id loan, store.tables.loan? id = some loan → loan.VerifiesUnder store.signer)
include wellFormed verified

/-- Replacing a stored attestation by one that is refused spoils exactly the queries that pick the
loan it belongs to. -/
theorem query_tampered {place : AttestationPlace} {original forged : Attestation}
    (stored : store.tables.attestation? place = some original)
    (refused : store.signer.check forged ≠ .ok ()) :
    ∃ owner loan, store.tables.owner? place = some owner ∧ store.load owner = .ok loan ∧
      original ∈ loan.attestations ∧ ∀ filter : LoanFilter,
        let tampered : Store := { store with tables := store.tables.tamper forged place }
        (filter.Picks loan → ∃ fault, tampered.query filter = reject (.invalidSignature fault)) ∧
        (¬ filter.Picks loan → tampered.query filter = store.query filter) := by
  have keys := store.tables.sameKeys_tamper forged place
  obtain ⟨owner, ownerEq, reseals⟩ := wellFormed.reseals_tamper stored forged
  obtain ⟨record, _, found, _, onLoan, _⟩ := reseals.own
  have loanFound : store.tables.loan? owner = some (store.tables.aggregate record) :=
    congrArg (Option.map store.tables.aggregate) found
  refine ⟨owner, _, ownerEq, load_of_verifies wellFormed loanFound (verified _ _ loanFound),
    Loan.mem_attestations_iff.mpr onLoan,
    fun filter => ⟨fun picked => ?_, fun unpicked => ?_⟩⟩
  · obtain ⟨changed, member, onChanged⟩ := reseals.exists_read keys wellFormed loanFound picked
    exact query_of_not_verifies member fun verifies => refused (verifies forged onChanged)
  · have read := reseals.ofRows_join_eq keys wellFormed loanFound unpicked
    rw [query_eq_ok wellFormed verified filter, ← read]
    apply query_of_verifies
    intro other member
    rw [read] at member
    exact verified other.id other (wellFormed.mem_ofRows_join.mp member).1

end Store

end LoanBook
