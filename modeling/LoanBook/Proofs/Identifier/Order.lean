import LoanBook.Identifier

/-!
# The order of identifiers

Identifiers are ordered as big-endian numbers.  Sixteen bytes are determined by their number, so
the order is total and distinct identifiers are strictly ordered.
-/

namespace LoanBook.Identifier

variable {kind : IdentifierKind}

theorem foldl_bytes_injective {first second : List UInt8} {start other : Nat}
    (lengthEq : first.length = second.length)
    (numberEq : first.foldl (fun value byte => value * 256 + byte.toNat) start =
      second.foldl (fun value byte => value * 256 + byte.toNat) other) :
    start = other ∧ first = second := by
  induction first generalizing second start other with
  | nil =>
      have none : second = [] := List.eq_nil_of_length_eq_zero (by simpa using lengthEq.symm)
      subst none
      exact ⟨numberEq, rfl⟩
  | cons byte bytes ih =>
      cases second with
      | nil => simp at lengthEq
      | cons next rest =>
          have tailLength : bytes.length = rest.length := by simpa using lengthEq
          have headEq : start * 256 + byte.toNat = other * 256 + next.toNat :=
            (ih tailLength numberEq).1
          have tailEq : bytes = rest := (ih tailLength numberEq).2
          have byteLt := byte.toNat_lt
          have nextLt := next.toNat_lt
          have byteEq : byte = next := UInt8.toNat_inj.mp (by omega)
          exact ⟨by omega, by rw [byteEq, tailEq]⟩

theorem number_injective {first second : Identifier kind} (same : first.number = second.number) :
    first = second := by
  obtain ⟨bytes, lengthEq⟩ := first
  obtain ⟨others, otherLengthEq⟩ := second
  have bytesEq := (foldl_bytes_injective (lengthEq.trans otherLengthEq.symm) same).2
  cases bytesEq
  rfl

theorem le_def {first second : Identifier kind} : first ≤ second ↔ first.number ≤ second.number :=
  Iff.rfl

theorem lt_def {first second : Identifier kind} : first < second ↔ first.number < second.number :=
  Iff.rfl

theorem lt_of_le_of_ne {first second : Identifier kind} (ordered : first ≤ second)
    (distinct : first ≠ second) : first < second := by
  have differs : first.number ≠ second.number := fun same => distinct (number_injective same)
  exact Nat.lt_of_le_of_ne ordered differs

end LoanBook.Identifier
