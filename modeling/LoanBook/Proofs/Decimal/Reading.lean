import LoanBook.Decimal.Text
import LoanBook.Proofs.Text.Digits

/-!
# Decimals read back

A decimal is read back from its text with the places that it was written with.  Only the sign of a
zero is lost.
-/

namespace LoanBook.Decimal

open LoanBook.Text

/-- The same number, without a sign when it is zero. -/
def plain (value : Decimal) : Decimal :=
  { value with negative := value.negative && value.mantissa != 0 }

theorem plain_equiv (value : Decimal) : value.plain ≈ value := by
  rw [equiv_def]
  cases zero : value.mantissa with
  | zero => simp [units, signed, plain, zero]
  | succ mantissa => simp [units, signed, plain, zero]

@[simp]
theorem ofReading?_parts (value : Decimal) :
    ofReading? value.negative value.mantissa value.scale = some value.plain :=
  ofParts?_eq_some value.mantissa_lt value.scale_le

theorem digit?_of_isDigit {c : Char} (isDigit : c.isDigit = true) :
    digit? c = some (c.toNat - '0'.toNat) :=
  if_pos isDigit

theorem le_ofDigitChars (digits : List Char) (start : Nat) :
    start ≤ Nat.ofDigitChars 10 digits start := by
  rw [Nat.ofDigitChars_eq_ofDigitChars_zero]
  have grows : start ≤ 10 ^ digits.length * start := Nat.le_mul_of_pos_left start (Nat.pow_pos (by decide))
  omega

variable {negative started : Bool} {mantissa scale : Nat} {digits rest : List Char}

/-- Digits before the point go into the mantissa while it has room for them. -/
theorem readWhole?_digits (each : ∀ c ∈ digits, c.isDigit = true)
    (fits : Nat.ofDigitChars 10 digits mantissa < mantissaBound) :
    readWhole? negative started mantissa (digits ++ rest) =
      readWhole? negative (started || !digits.isEmpty) (Nat.ofDigitChars 10 digits mantissa)
        rest := by
  induction digits generalizing started mantissa with
  | nil => simp
  | cons c digits ih =>
      obtain ⟨isDigit, later⟩ := List.forall_mem_cons.mp each
      rw [Nat.ofDigitChars_cons, Nat.mul_comm 10] at fits ⊢
      have room := Nat.lt_of_le_of_lt (le_ofDigitChars digits _) fits
      rw [List.cons_append, readWhole?, digit?_of_isDigit isDigit]
      dsimp only
      rw [if_neg (Nat.not_le.mpr room), ih later fits]
      simp

/-- Digits after the point go into the mantissa while it has room for them and for their places. -/
theorem readPlaces?_digits (each : ∀ c ∈ digits, c.isDigit = true)
    (fits : Nat.ofDigitChars 10 digits mantissa < mantissaBound)
    (places : scale + digits.length ≤ maxScale) :
    readPlaces? negative started mantissa scale (digits ++ rest) =
      readPlaces? negative (started || !digits.isEmpty) (Nat.ofDigitChars 10 digits mantissa)
        (scale + digits.length) rest := by
  induction digits generalizing started mantissa scale with
  | nil => simp
  | cons c digits ih =>
      obtain ⟨isDigit, later⟩ := List.forall_mem_cons.mp each
      rw [Nat.ofDigitChars_cons, Nat.mul_comm 10] at fits ⊢
      rw [List.length_cons] at places ⊢
      have room := Nat.lt_of_le_of_lt (le_ofDigitChars digits _) fits
      rw [List.cons_append, readPlaces?, digit?_of_isDigit isDigit]
      dsimp only
      rw [if_neg (by omega), ih later fits (by omega), Nat.add_assoc, Nat.add_comm 1]
      simp

/-- The digits of a decimal without its sign. -/
def magnitudeChars (value : Decimal) : List Char :=
  Nat.toDigits 10 (value.mantissa / 10 ^ value.scale) ++
    if value.scale = 0 then []
    else '.' :: paddedDigits value.scale (value.mantissa % 10 ^ value.scale)

theorem toChars_eq (value : Decimal) :
    value.toChars = (if value.negative then ['-'] else []) ++ value.magnitudeChars := by
  simp [toChars, magnitudeChars]

theorem readWhole?_magnitudeChars (value : Decimal) :
    readWhole? value.negative false 0 value.magnitudeChars = some value.plain := by
  have wholeDigits : ∀ c ∈ Nat.toDigits 10 (value.mantissa / 10 ^ value.scale),
      c.isDigit = true := fun c member =>
    Nat.isDigit_of_mem_toDigits (by decide) (by decide) member
  have wholeLe : value.mantissa / 10 ^ value.scale < mantissaBound :=
    Nat.lt_of_le_of_lt (Nat.div_le_self _ _) value.mantissa_lt
  have started :
      (false || !(Nat.toDigits 10 (value.mantissa / 10 ^ value.scale)).isEmpty) = true := by
    simp [Nat.toDigits_ne_nil]
  rw [magnitudeChars, readWhole?_digits wholeDigits (by rwa [Nat.ofDigitChars_ten_toDigits]),
    Nat.ofDigitChars_ten_toDigits, started]
  by_cases noPlaces : value.scale = 0
  · rw [if_pos noPlaces, noPlaces, Nat.pow_zero, Nat.div_one]
    simp [readWhole?, ← noPlaces]
  · have less : value.mantissa % 10 ^ value.scale < 10 ^ value.scale :=
      Nat.mod_lt _ (Nat.pow_pos (by decide))
    have length : (paddedDigits value.scale (value.mantissa % 10 ^ value.scale)).length =
        value.scale := length_padded (Nat.pos_of_ne_zero noPlaces) less
    have all : Nat.ofDigitChars 10
        (paddedDigits value.scale (value.mantissa % 10 ^ value.scale))
        (value.mantissa / 10 ^ value.scale) = value.mantissa := by
      rw [Nat.ofDigitChars_eq_ofDigitChars_zero, length, paddedDigits, ofDigitChars_padded]
      exact Nat.div_add_mod ..
    have pointless : digit? '.' = none := rfl
    have read := @readPlaces?_digits value.negative true (value.mantissa / 10 ^ value.scale) 0
      (paddedDigits value.scale (value.mantissa % 10 ^ value.scale)) []
      (fun c member => isDigit_of_mem_padded member) (by rw [all]; exact value.mantissa_lt)
      (by rw [length, Nat.zero_add]; exact value.scale_le)
    rw [all, length, List.append_nil, Nat.zero_add] at read
    rw [if_neg noPlaces, readWhole?, pointless]
    dsimp only
    rw [if_pos rfl, read]
    simp [readPlaces?]

/-- A decimal is read back from its digits, in which no exponent is looked for. -/
theorem ofChars?_toChars (value : Decimal) : ofChars? value.toChars = some value.plain := by
  have read := readWhole?_magnitudeChars value
  suffices plainRead : ofPlainChars? value.toChars = some value.plain by
    rw [ofChars?, plainRead]
  rw [toChars_eq]
  cases sign : value.negative with
  | true =>
      rw [sign] at read
      exact read
  | false =>
      rw [sign] at read
      -- a text that starts with a digit has no sign to pass over
      obtain ⟨c, later, split⟩ := List.exists_cons_of_ne_nil
        (@Nat.toDigits_ne_nil (value.mantissa / 10 ^ value.scale) 10)
      have isDigit : c.isDigit = true :=
        Nat.isDigit_of_mem_toDigits (by decide) (by decide) (split ▸ List.mem_cons_self)
      rw [magnitudeChars, split] at read ⊢
      rw [← read]
      unfold ofPlainChars?
      split
      · rename_i same
        cases same
        simp at isDigit
      · rename_i same
        cases same
        simp at isDigit
      · rfl

@[simp]
theorem ofText?_toText (value : Decimal) : ofText? value.toText = some value.plain := by
  rw [ofText?, toText, String.toList_ofList, ofChars?_toChars]

end LoanBook.Decimal
