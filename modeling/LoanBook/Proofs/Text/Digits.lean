import LoanBook.Power

/-!
# Runs of digits

A number is written with leading zeros up to some width, and read from the run of digits at the
head of a text.  The run ends where the text goes on with something other than a digit.
-/

namespace LoanBook.Text

/-- A text that goes on with no digit, so that a run of digits before it ends there. -/
def EndsDigits (rest : List Char) : Prop :=
  ∀ c ∈ rest.head?, c.isDigit = false

section Runs

variable {digits rest : List Char}

@[simp]
theorem endsDigits_nil : EndsDigits [] := by
  simp [EndsDigits]

@[simp]
theorem endsDigits_cons {c : Char} : EndsDigits (c :: rest) ↔ c.isDigit = false := by
  simp [EndsDigits]

theorem takeWhile_digits (each : ∀ c ∈ digits, c.isDigit = true) (ends : EndsDigits rest) :
    (digits ++ rest).takeWhile Char.isDigit = digits := by
  rw [List.takeWhile_append_of_pos each]
  cases rest with
  | nil => simp
  | cons c rest => simp [endsDigits_cons.mp ends]

theorem dropWhile_digits (each : ∀ c ∈ digits, c.isDigit = true) (ends : EndsDigits rest) :
    (digits ++ rest).dropWhile Char.isDigit = rest := by
  rw [List.dropWhile_append_of_pos each]
  cases rest with
  | nil => simp
  | cons c rest => simp [endsDigits_cons.mp ends]

end Runs

section Padded

variable {width number : Nat}

theorem isDigit_of_mem_padded {c : Char}
    (member : c ∈ (Nat.toDigits 10 number).leftpad width '0') : c.isDigit = true := by
  rcases List.mem_append.mp member with zero | digit
  · rw [List.eq_of_mem_replicate zero]
    rfl
  · exact Nat.isDigit_of_mem_toDigits (by decide) (by decide) digit

theorem padded_ne_nil : (Nat.toDigits 10 number).leftpad width '0' ≠ [] := by
  intro none
  exact Nat.toDigits_ne_nil (List.append_eq_nil_iff.mp none).2

theorem ofDigitChars_padded :
    Nat.ofDigitChars 10 ((Nat.toDigits 10 number).leftpad width '0') 0 = number := by
  rw [List.leftpad, Nat.ofDigitChars_append, Nat.ofDigitChars_replicate_zero, Nat.mul_zero,
    Nat.ofDigitChars_ten_toDigits]

theorem length_padded (positive : 0 < width) (less : number < 10 ^ width) :
    ((Nat.toDigits 10 number).leftpad width '0').length = width := by
  have short := (Nat.length_toDigits_le_iff (by decide) positive).mpr less
  simp [short]

end Padded

end LoanBook.Text
