/-!
# The states of a loan

A loan is proposed, approved, invested and disbursed, in this order and one step at a time.
-/

namespace LoanBook

/-- How far a loan has come. -/
inductive LoanState where
  | proposed
  | approved
  | invested
  | disbursed
deriving DecidableEq

namespace LoanState

/-- The position in the order of states. -/
def rank : LoanState → Nat
  | proposed => 0
  | approved => 1
  | invested => 2
  | disbursed => 3

/-- A loan comes to the later states after the earlier ones. -/
instance : LE LoanState := ⟨fun left right => left.rank ≤ right.rank⟩

instance : LT LoanState := ⟨fun left right => left.rank < right.rank⟩

instance (left right : LoanState) : Decidable (left ≤ right) :=
  inferInstanceAs (Decidable (left.rank ≤ right.rank))

instance (left right : LoanState) : Decidable (left < right) :=
  inferInstanceAs (Decidable (left.rank < right.rank))

/-- The state that a loan must be in before it enters this one. -/
def predecessor : LoanState → Option LoanState
  | proposed => none
  | approved => some proposed
  | invested => some approved
  | disbursed => some invested

def word : LoanState → String
  | proposed => "proposed"
  | approved => "approved"
  | invested => "invested"
  | disbursed => "disbursed"

def title : LoanState → String
  | proposed => "Proposed"
  | approved => "Approved"
  | invested => "Invested"
  | disbursed => "Disbursed"

def all : List LoanState := [proposed, approved, invested, disbursed]

def ofWord? (word : String) : Option LoanState :=
  all.find? fun state => state.word == word

theorem le_def {earlier later : LoanState} : earlier ≤ later ↔ earlier.rank ≤ later.rank :=
  Iff.rfl

theorem le_refl (state : LoanState) : state ≤ state :=
  Nat.le_refl _

theorem le_trans {first second third : LoanState} (less : first ≤ second) (next : second ≤ third) :
    first ≤ third :=
  Nat.le_trans less next

theorem rank_of_predecessor {state before : LoanState}
    (precedes : state.predecessor = some before) : state.rank = before.rank + 1 := by
  cases state <;> cases precedes <;> rfl

theorem le_of_predecessor {state before : LoanState}
    (precedes : state.predecessor = some before) : before ≤ state := by
  rw [le_def, rank_of_predecessor precedes]
  omega

end LoanState

end LoanBook
