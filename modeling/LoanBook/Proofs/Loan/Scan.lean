import LoanBook.Proofs.Loan.Joining
import LoanBook.Proofs.Loan.Origins
import LoanBook.Proofs.Loan.Separation

/-!
# Grouping in one pass

Rows can be grouped in one pass from the front that keeps the loans made so far and the index of the
open party in the last of them.  Every part is reached by its index, and a pass fails where an index
points nowhere.  That never happens, and the pass makes the loans of `Loan.ofRows`: where it stands
depends on these loans only, and a row is joined to them at their end.
-/

namespace LoanBook

/-- The index of the last member of a list that has one. -/
def lastIndex? {α : Type} (members : List α) : Option Nat :=
  match members.length with
  | 0 => none
  | index + 1 => some index

/-- Where a pass stands: the loans so far, and the index of the open party in the last of them. -/
structure LoanScan where
  loans : List Loan
  party : Option Nat
deriving DecidableEq

namespace LoanScan

def start : LoanScan := ⟨[], none⟩

/-- Opens a loan, without an open party, unless the last loan has its identifier. -/
def openLoan (scan : LoanScan) (record : LoanRecord) : LoanScan :=
  if scan.loans.getLast?.any fun loan => loan.id = record.id then scan
  else ⟨scan.loans ++ [record.withParties []], none⟩

/-- Whether the open party has an identifier. -/
def isOpen? (scan : LoanScan) (index : Nat) (id : PartyId) : Option Bool :=
  match scan.party with
  | none => some false
  | some position => do
    let loan ← scan.loans[index]?
    let party ← loan.parties[position]?
    return party.id = id

/-- Opens a party in a loan unless the open party has its identifier. -/
def openParty? (scan : LoanScan) (index : Nat) (record : PartyRecord) : Option LoanScan := do
  if ← scan.isOpen? index record.id then return scan
  else
    let loan ← scan.loans[index]?
    let parties := loan.parties ++ [record.withPayments []]
    let position ← lastIndex? parties
    return ⟨scan.loans.set index { loan with parties }, some position⟩

/-- Adds a payment to a party of a loan. -/
def pay? (scan : LoanScan) (index position : Nat) (payment : Payment) : Option LoanScan := do
  let loan ← scan.loans[index]?
  let party ← loan.parties[position]?
  let paid := { party with payments := party.payments ++ [payment] }
  let parties := loan.parties.set position paid
  return { scan with loans := scan.loans.set index { loan with parties } }

/-- Adds the party and the payment of a row to a loan. -/
def fill? (scan : LoanScan) (index : Nat) (row : LoanRow) : Option LoanScan :=
  match row.party with
  | none => some scan
  | some record => do
    let scan ← scan.openParty? index record
    match row.payment, scan.party with
    | some payment, some position => scan.pay? index position payment
    | _, _ => return scan

/-- One row of a pass. -/
def step? (scan : LoanScan) (row : LoanRow) : Option LoanScan := do
  let scan := scan.openLoan row.loan
  let index ← lastIndex? scan.loans
  scan.fill? index row

end LoanScan

/-- Groups rows in one pass from the front. -/
def Loan.scan? (rows : List LoanRow) : Option (List Loan) :=
  (rows.foldlM LoanScan.step? LoanScan.start).map LoanScan.loans

@[simp]
theorem lastIndex?_nil {α : Type} : lastIndex? ([] : List α) = none := rfl

@[simp]
theorem lastIndex?_append_singleton {α : Type} (members : List α) (last : α) :
    lastIndex? (members ++ [last]) = some members.length := by
  rw [lastIndex?, List.length_append]
  rfl

namespace LoanScan

/-- Where a pass stands when it has made some loans: the last party of the last one is open. -/
def after (loans : List Loan) : LoanScan :=
  ⟨loans, loans.getLast?.bind fun loan => lastIndex? loan.parties⟩

variable {loans : List Loan} {loan : Loan}

@[simp]
theorem loans_after : (after loans).loans = loans := rfl

@[simp]
theorem party_after_append :
    (after (loans ++ [loan])).party = lastIndex? loan.parties := by
  simp [after]

/-- With the loan of a row open, joining the row is joining it to the last loan. -/
theorem exists_openLoan_after (separate : Loan.AreSeparate loans) (row : LoanRow) :
    ∃ earlier opened, (after loans).openLoan row.loan = after (earlier ++ [opened]) ∧
      (opened.parties.IsChain fun party next => party.id ≠ next.id) ∧
      Loan.joining.append loans [row.alone] = earlier ++
        [{ opened with parties := LoanParty.joining.append opened.parties (row.addTo []) }] := by
  have opens (changes : ∀ last ∈ loans.getLast?, last.id ≠ row.loan.id) :
      (after loans).openLoan row.loan = after (loans ++ [row.loan.withParties []]) ∧
        Loan.joining.append loans [row.alone] =
          loans ++ [row.loan.withParties (LoanParty.joining.append [] (row.addTo []))] := by
    constructor
    · have other : (loans.getLast?.any fun loan => loan.id = row.loan.id) = false := by
        cases ended : loans.getLast? with
        | none => rfl
        | some last => simpa using changes last ended
      simp [openLoan, after, other, LoanRecord.withParties]
    · exact Loan.joining.append_singleton_of_ne separate.loans_differ changes
  rcases List.eq_nil_or_concat' loans with rfl | ⟨earlier, last, rfl⟩
  · obtain ⟨opened, joined⟩ := opens (by simp)
    exact ⟨[], _, opened, .nil, joined⟩
  · by_cases same : row.loan.id = last.id
    · refine ⟨earlier, last, ?_, separate.parties_differ last (by simp), ?_⟩
      · simp [openLoan, same]
      · exact Loan.joining.append_singleton_of_eq separate.loans_differ same
    · obtain ⟨opened, joined⟩ := opens (by simpa using Ne.symm same)
      exact ⟨_, _, opened, .nil, joined⟩

/-- With the party of a row open, joining its payments is joining them to the last party. -/
theorem exists_openParty?_after (differ : loan.parties.IsChain fun party next => party.id ≠ next.id)
    (record : PartyRecord) :
    ∃ parties opened, (after (loans ++ [loan])).openParty? loans.length record =
        some (after (loans ++ [{ loan with parties := parties ++ [opened] }])) ∧
      ∀ payments, LoanParty.joining.append loan.parties [record.withPayments payments] =
        parties ++ [{ opened with payments := opened.payments ++ payments }] := by
  have opens (changes : ∀ last ∈ loan.parties.getLast?, last.id ≠ record.id)
      (closed : (after (loans ++ [loan])).isOpen? loans.length record.id = some false) :
      (after (loans ++ [loan])).openParty? loans.length record =
          some (after (loans ++
            [{ loan with parties := loan.parties ++ [record.withPayments []] }])) ∧
        ∀ payments, LoanParty.joining.append loan.parties [record.withPayments payments] =
          loan.parties ++ [record.withPayments payments] := by
    constructor
    · rw [openParty?, closed]
      simp [after]
    · intro payments
      exact LoanParty.joining.append_singleton_of_ne differ changes
  rcases List.eq_nil_or_concat' loan.parties with none | ⟨earlier, last, ends⟩
  · obtain ⟨opened, joined⟩ := opens (by simp [none]) (by simp [isOpen?, none])
    exact ⟨_, _, opened, joined⟩
  · have isOpen : (after (loans ++ [loan])).isOpen? loans.length record.id =
        some (decide (last.id = record.id)) := by
      simp [isOpen?, ends]
    by_cases same : last.id = record.id
    · refine ⟨earlier, last, ?_, fun payments => ?_⟩
      · rw [openParty?, isOpen, ← ends]
        simp [same]
      · rw [ends] at differ ⊢
        exact LoanParty.joining.append_singleton_of_eq differ same.symm
    · obtain ⟨opened, joined⟩ := opens (by simpa [ends] using same) (by simpa [same] using isOpen)
      exact ⟨_, _, opened, joined⟩

theorem pay?_after (parties : List LoanParty) (party : LoanParty) (payment : Payment) :
    (after (loans ++ [{ loan with parties := parties ++ [party] }])).pay? loans.length
        parties.length payment =
      some (after (loans ++ [{ loan with
        parties := parties ++ [{ party with payments := party.payments ++ [payment] }] }])) := by
  simp [pay?, after]

/-- Filling the open loan with a row is joining the party that the row makes by itself. -/
theorem fill?_after (differ : loan.parties.IsChain fun party next => party.id ≠ next.id)
    (row : LoanRow) :
    (after (loans ++ [loan])).fill? loans.length row = some (after (loans ++
      [{ loan with parties := LoanParty.joining.append loan.parties (row.addTo []) }])) := by
  unfold fill? LoanRow.addTo
  cases row.party with
  | none =>
      rw [LoanParty.joining.append_nil differ]
  | some record =>
      obtain ⟨parties, opened, opens, joined⟩ := exists_openParty?_after differ record
      dsimp only
      rw [opens, joined, Option.bind_eq_bind, Option.bind_some, party_after_append,
        lastIndex?_append_singleton]
      cases row.payment with
      | none => simp
      | some payment => exact pay?_after parties opened payment

/-- One row of a pass joins the loan that the row makes by itself, and finds all that it looks for. -/
theorem step?_after (separate : Loan.AreSeparate loans) (row : LoanRow) :
    (after loans).step? row = some (after (Loan.joining.append loans [row.alone])) := by
  obtain ⟨earlier, opened, opens, differ, joined⟩ := exists_openLoan_after separate row
  rw [joined, ← fill?_after differ, step?, opens]
  simp

/-- After any rows a pass stands at the loans that they are grouped to. -/
theorem foldlM_step? (rows : List LoanRow) :
    rows.foldlM step? start = some (after (Loan.ofRows rows)) := by
  induction rows using List.reverseRecOn with
  | nil => rfl
  | append_singleton rows row ih =>
      have alone : Loan.ofRows [row] = [row.alone] := rfl
      rw [List.foldlM_append, ih, Loan.ofRows_append, alone]
      simpa using step?_after (Loan.areSeparate_ofRows rows) row

end LoanScan

namespace Loan

/-- A pass never fails, and makes the loans that the rows are grouped to. -/
theorem scan?_eq_some (rows : List LoanRow) : scan? rows = some (ofRows rows) := by
  rw [scan?, LoanScan.foldlM_step?]
  rfl

/-- Whatever rows are grouped, no index fails, no payment is lost or made twice or moved before
another, no neighbours share an identifier, and grouping the loans once more changes nothing. -/
theorem grouping_lossless (rows : List LoanRow) :
    ∃ loans, scan? rows = some loans ∧ ofRows rows = loans ∧
      loans.flatMap payments = rows.flatMap LoanRow.payments ∧
      (loans.IsChain fun loan next => loan.id ≠ next.id) ∧
      (∀ loan ∈ loans, loan.parties.IsChain fun party next => party.id ≠ next.id) ∧
      scan? (loans.flatMap toRows) = some loans := by
  have separate := areSeparate_ofRows rows
  refine ⟨ofRows rows, scan?_eq_some rows, rfl, flatMap_payments_ofRows rows,
    separate.loans_differ, separate.parties_differ, ?_⟩
  rw [scan?_eq_some, ofRows_flatMap_toRows separate]

end Loan

end LoanBook
