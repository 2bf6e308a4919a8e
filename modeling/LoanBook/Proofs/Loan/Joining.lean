import LoanBook.Proofs.Loan.Grouping

/-!
# Rows grouped in stretches

When the rows of one stretch are grouped and then those of the next, the last loan of the first may
go on as the first loan of the second, and in it the last party.  Loans and parties are joined in
the same way, by a key that tells which parts belong together, and joining is associative.  So
grouping all rows at once is joining what the stretches give.
-/

namespace LoanBook

/-- How neighbouring parts of one key are joined; the key stays, and the order of joining does not
matter. -/
structure Joining (α κ : Type) where
  key : α → κ
  merge : α → α → α
  key_merge : ∀ part next, key (merge part next) = key part
  merge_assoc : ∀ part next last, merge (merge part next) last = merge part (merge next last)

namespace Joining

variable {α κ : Type} [DecidableEq κ] (joining : Joining α κ)

/-- Puts a part before others; it takes in the first of them when the two have one key. -/
def cons (part : α) : List α → List α
  | [] => [part]
  | first :: parts =>
    if joining.key first = joining.key part then joining.merge part first :: parts
    else part :: first :: parts

/-- Puts parts before others, joining where they meet. -/
def append (parts others : List α) : List α :=
  parts.foldr joining.cons others

variable {part next last : α} {parts others more : List α}

theorem cons_cons_of_eq (same : joining.key next = joining.key part) :
    joining.cons part (joining.cons next parts) = joining.cons (joining.merge part next) parts := by
  cases parts with
  | nil => simp [cons, same]
  | cons first parts =>
      by_cases meets : joining.key first = joining.key next
      · simp [cons, same, meets, joining.key_merge, joining.merge_assoc]
      · have apart : joining.key first ≠ joining.key part := same ▸ meets
        simp [cons, same, apart, joining.key_merge]

theorem append_cons :
    joining.append (joining.cons part parts) others =
      joining.cons part (joining.append parts others) := by
  cases parts with
  | nil => rfl
  | cons first parts =>
      by_cases same : joining.key first = joining.key part
      · rw [cons, if_pos same]
        exact (joining.cons_cons_of_eq same).symm
      · rw [cons, if_neg same]
        rfl

theorem append_assoc :
    joining.append (joining.append parts others) more =
      joining.append parts (joining.append others more) := by
  induction parts with
  | nil => rfl
  | cons part parts ih =>
      calc
        joining.append (joining.append (part :: parts) others) more =
            joining.cons part (joining.append (joining.append parts others) more) :=
          joining.append_cons
        _ = joining.cons part (joining.append parts (joining.append others more)) := by rw [ih]

/-- Parts of which no two neighbours share a key are put before others as they are. -/
theorem append_of_isChain
    (differ : (parts ++ others).IsChain fun part next => joining.key part ≠ joining.key next) :
    joining.append parts others = parts ++ others := by
  induction parts with
  | nil => rfl
  | cons part parts ih =>
      rw [List.cons_append, List.isChain_cons] at differ
      obtain ⟨changes, later⟩ := differ
      change joining.cons part (joining.append parts others) = part :: (parts ++ others)
      rw [ih later]
      cases after : parts ++ others with
      | nil => rfl
      | cons first rest =>
          have apart := changes first (by rw [after]; rfl)
          simp [cons, apart.symm]

theorem append_nil
    (differ : parts.IsChain fun part next => joining.key part ≠ joining.key next) :
    joining.append parts [] = parts := by
  rw [joining.append_of_isChain (by rwa [List.append_nil]), List.append_nil]

theorem append_singleton_of_eq
    (differ : (parts ++ [last]).IsChain fun part next => joining.key part ≠ joining.key next)
    (same : joining.key next = joining.key last) :
    joining.append (parts ++ [last]) [next] = parts ++ [joining.merge last next] := by
  have met : joining.append (parts ++ [last]) [next] =
      joining.append parts [joining.merge last next] := by
    simp [append, cons, same]
  rw [met]
  apply joining.append_of_isChain
  rw [List.isChain_append] at differ ⊢
  simpa [joining.key_merge] using differ

theorem append_singleton_of_ne
    (differ : parts.IsChain fun part next => joining.key part ≠ joining.key next)
    (changes : ∀ last ∈ parts.getLast?, joining.key last ≠ joining.key next) :
    joining.append parts [next] = parts ++ [next] := by
  apply joining.append_of_isChain
  rw [List.isChain_append]
  simpa using ⟨differ, changes⟩

end Joining

/-- Stretches of one party hold its payments one after another. -/
def LoanParty.joining : Joining LoanParty PartyId where
  key := LoanParty.id
  merge party next := { party with payments := party.payments ++ next.payments }
  key_merge _ _ := rfl
  merge_assoc party next last := by simp

/-- Stretches of one loan hold its parties one after another, and the last may go on. -/
def Loan.joining : Joining Loan LoanId where
  key := Loan.id
  merge loan next := { loan with parties := LoanParty.joining.append loan.parties next.parties }
  key_merge _ _ := rfl
  merge_assoc loan next last := by simp [LoanParty.joining.append_assoc]

/-- The loan that a row makes by itself. -/
def LoanRow.alone (row : LoanRow) : Loan :=
  row.loan.withParties (row.addTo [])

theorem LoanRow.addTo_eq_append (row : LoanRow) (parties : List LoanParty) :
    row.addTo parties = LoanParty.joining.append (row.addTo []) parties := by
  unfold addTo
  cases row.party with
  | none => rfl
  | some record =>
      cases parties with
      | nil => rfl
      | cons party rest => rfl

namespace Loan

theorem ofRows_cons (row : LoanRow) (rows : List LoanRow) :
    ofRows (row :: rows) = joining.cons row.alone (ofRows rows) := by
  rw [ofRows]
  cases ofRows rows with
  | nil => rfl
  | cons loan loans =>
      dsimp only
      rw [row.addTo_eq_append loan.parties]
      rfl

/-- Grouping rows of two stretches at once is joining the loans of the one with those of the
other. -/
theorem ofRows_append (rows more : List LoanRow) :
    ofRows (rows ++ more) = joining.append (ofRows rows) (ofRows more) := by
  induction rows with
  | nil => rfl
  | cons row rows ih => rw [List.cons_append, ofRows_cons, ih, ofRows_cons, joining.append_cons]

end Loan

end LoanBook
