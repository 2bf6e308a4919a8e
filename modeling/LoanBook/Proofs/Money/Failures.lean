import LoanBook.Proofs.Money.Exact

/-!
# Failures of money

A computation is said to fail within a cause when every failure that it can end with has the cause.
Rounding and adding money are refused for a currency or for a sum that is too large; splitting money
can also overflow, or be asked for no portion.  Neither happens to amounts in minor units that are
not below zero, however large they are.
-/

namespace LoanBook

/-- What sums of money and dates are refused for. -/
def Failure.IsRefusal : Failure → Prop
  | .rejected (.validation .sumOverflow) => True
  | .rejected (.validation (.dateOverflow _)) => True
  | .rejected (.unknownCurrency _) => True
  | .rejected (.currencyMismatch _ _) => True
  | _ => False

/-- The failures that amounts, rates and currencies lead to. -/
def Failure.IsMonetary : Failure → Prop
  | .overflow => True
  | .rejected (.validation (.splitMissed _ _ _ _)) => False
  | .rejected (.validation _) => True
  | .rejected (.unknownCurrency _) => True
  | .rejected (.invalidPortion _) => True
  | .rejected (.currencyMismatch _ _) => True
  | .rejected (.coverage _) => True
  | .rejected _ => False

/-- The failures that a request is told about: what is wrong with it, and what it finds stored. -/
def Failure.IsForeseen : Failure → Prop
  | .rejected (.validation _) => True
  | .rejected (.unknownCurrency _) => True
  | .rejected (.currencyMismatch _ _) => True
  | .rejected (.stateConflict _ _) => True
  | .rejected (.loanNotFound _) => True
  | .rejected (.coverage _) => True
  | _ => False

namespace Failure

theorem IsRefusal.isMonetary {failure : Failure} (refusal : failure.IsRefusal) :
    failure.IsMonetary := by
  unfold IsRefusal at refusal
  split at refusal
  · trivial
  · trivial
  · trivial
  · trivial
  · exact refusal.elim

theorem IsRefusal.isForeseen {failure : Failure} (refusal : failure.IsRefusal) :
    failure.IsForeseen := by
  unfold IsRefusal at refusal
  split at refusal
  · trivial
  · trivial
  · trivial
  · trivial
  · exact refusal.elim

end Failure

/-- A computation that fails for some causes only. -/
def FailsWithin {α : Type} (cause : Failure → Prop) (computation : Except Failure α) : Prop :=
  ∀ failure, computation = .error failure → cause failure

/-- A computation that fails for reasons of money only. -/
abbrev FailsOnMoney {α : Type} (computation : Except Failure α) : Prop :=
  FailsWithin Failure.IsMonetary computation

namespace FailsWithin

variable {α β : Type} {cause weaker : Failure → Prop}

theorem ok (value : α) : FailsWithin cause (.ok value) :=
  fun _ none => nomatch none

theorem of_eq_ok {computation : Except Failure α} {value : α} (same : computation = .ok value) :
    FailsWithin cause computation := by
  rw [same]
  exact ok value

theorem reject {error : LoanError} (caused : cause (.rejected error)) :
    FailsWithin cause (reject error : Except Failure α) := by
  intro failure same
  cases same
  exact caused

theorem granted (found : Option α) (caused : cause .overflow) :
    FailsWithin cause (granted found) := by
  cases found with
  | none =>
      intro failure same
      cases same
      exact caused
  | some value => exact ok value

/-- What comes after a step need only be looked at for the values that the step can have. -/
theorem bind_ok {step : Except Failure α} {next : α → Except Failure β}
    (first : FailsWithin cause step)
    (rest : ∀ value, step = .ok value → FailsWithin cause (next value)) :
    FailsWithin cause (step >>= next) := by
  intro failure failed
  rcases bind_eq_error_iff.mp failed with stepFailed | ⟨value, stepOk, nextFailed⟩
  · exact first failure stepFailed
  · exact rest value stepOk failure nextFailed

theorem bind {step : Except Failure α} {next : α → Except Failure β}
    (first : FailsWithin cause step) (rest : ∀ value, FailsWithin cause (next value)) :
    FailsWithin cause (step >>= next) :=
  bind_ok first fun value _ => rest value

theorem mono {computation : Except Failure α} (fails : FailsWithin cause computation)
    (weakens : ∀ failure, cause failure → weaker failure) : FailsWithin weaker computation :=
  fun failure failed => weakens failure (fails failure failed)

theorem forM {members : List α} {check : α → Except Failure Unit}
    (each : ∀ member ∈ members, FailsWithin cause (check member)) :
    FailsWithin cause (members.forM check) := by
  intro failure failed
  obtain ⟨member, memberMem, memberFailed⟩ := exists_of_forM_eq_error failed
  exact each member memberMem failure memberFailed

theorem mapM {members : List α} {step : α → Except Failure β}
    (each : ∀ member ∈ members, FailsWithin cause (step member)) :
    FailsWithin cause (members.mapM step) := by
  induction members with
  | nil => exact .ok []
  | cons member members ih =>
      rw [List.mapM_cons]
      refine .bind (each member List.mem_cons_self) fun first => ?_
      exact .bind (ih fun other otherMem => each other (List.mem_cons_of_mem member otherMem))
        fun _ => .ok _

theorem onMoney {computation : Except Failure α}
    (refuses : FailsWithin Failure.IsRefusal computation) : FailsOnMoney computation :=
  refuses.mono fun _ => Failure.IsRefusal.isMonetary

theorem foreseen {computation : Except Failure α}
    (refuses : FailsWithin Failure.IsRefusal computation) :
    FailsWithin Failure.IsForeseen computation :=
  refuses.mono fun _ => Failure.IsRefusal.isForeseen

end FailsWithin

namespace Money

theorem precision_refuses (money : Money) : FailsWithin Failure.IsRefusal money.precision := by
  unfold precision
  split
  · exact .ok _
  · exact .reject trivial

theorem rounded_refuses (money : Money) : FailsWithin Failure.IsRefusal money.rounded :=
  .bind money.precision_refuses fun _ => .ok _

theorem addTo_refuses (currency : String) (total : Decimal) (operand : Money) :
    FailsWithin Failure.IsRefusal (addTo currency total operand) := by
  unfold addTo
  split
  · exact .reject trivial
  · split
    · exact .ok _
    · exact .reject trivial

theorem foldlM_addTo_refuses (currency : String) (operands : List Money) (total : Decimal) :
    FailsWithin Failure.IsRefusal (operands.foldlM (addTo currency) total) := by
  induction operands generalizing total with
  | nil => exact .ok total
  | cons operand operands ih =>
      rw [List.foldlM_cons]
      exact .bind (addTo_refuses currency total operand) ih

theorem sum_refuses (money : Money) (operands : List Money) :
    FailsWithin Failure.IsRefusal (money.sum operands) :=
  .bind (foldlM_addTo_refuses money.currency operands money.amount) fun _ => .ok _

theorem minus_refuses (money other : Money) : FailsWithin Failure.IsRefusal (money.minus other) :=
  money.sum_refuses _

theorem split_failsOnMoney (money : Money) (portion : Rate) :
    FailsOnMoney (money.split portion) := by
  unfold split
  split
  · split
    · exact .reject trivial
    · refine .bind (rounded_refuses _).onMoney fun taken => ?_
      exact .bind (.granted _ trivial) fun _ => .ok _
  · exact .reject trivial

/-- A portion is split off an amount in minor units without a failure. -/
theorem split_never_fails {money : Money} {portion : Rate} {places : Nat} {cause : Failure → Prop}
    (minor : money.IsMinor places) (nonneg : 0 ≤ money.units) (isPortion : portion.IsPortion) :
    FailsWithin cause (money.split portion) := by
  obtain ⟨split, splits, _⟩ := exists_isParted minor nonneg isPortion
  exact .of_eq_ok splits

end Money

end LoanBook
