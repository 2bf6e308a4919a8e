import LoanBook.Json.Token
import LoanBook.Proofs.Text.Digits

/-!
# JSON tokens read back

A token is cut off the head of a text that goes on after it.  Only a numeral needs to know how: what
follows must not be a digit, a point or the mark of an exponent.
-/

namespace LoanBook.Json

open LoanBook.Text (EndsDigits endsDigits_nil endsDigits_cons takeWhile_digits dropWhile_digits)

namespace Token

/-! ## String literals -/

theorem hexDigit?_hexChar {value : Nat} (small : value < 16) :
    hexDigit? (hexChar value) = some value := by
  have each : ∀ value < 16, hexDigit? (hexChar value) = some value := by decide
  exact each value small

theorem hexPiece?_hexChar {c : Char} (control : c.toNat < 0x20) :
    hexPiece? '0' '0' (hexChar (c.toNat / 16)) (hexChar (c.toNat % 16)) = some (.char c) := by
  have zero : hexDigit? '0' = some 0 := rfl
  have whole : c.toNat / 16 * 16 + c.toNat % 16 = c.toNat := by omega
  have notSurrogate : ¬ 0xD800 ≤ c.toNat := by omega
  rw [hexPiece?, zero, hexDigit?_hexChar (by omega), hexDigit?_hexChar (by omega)]
  simp [whole, notSurrogate]

/-- An escaped character is read as that character. -/
theorem readPieces?_escapeChar (c : Char) (rest : List Char) :
    readPieces? (escapeChar c ++ rest) =
      (readPieces? rest).map fun found => (.char c :: found.1, found.2) := by
  by_cases short : c ∈ ['"', '\\', '\x08', '\x0c', '\n', '\r', '\t']
  · simp only [List.mem_cons, List.not_mem_nil, or_false] at short
    rcases short with rfl | rfl | rfl | rfl | rfl | rfl | rfl <;> rfl
  · simp only [List.mem_cons, List.not_mem_nil, or_false, not_or] at short
    by_cases control : c.toNat < 0x20
    · have escaped : escapeChar c =
          ['\\', 'u', '0', '0', hexChar (c.toNat / 16), hexChar (c.toNat % 16)] := by
        simp [escapeChar, short, control]
      simp only [escaped, List.cons_append, List.nil_append]
      rw [readPieces?, hexPiece?_hexChar control, Option.bind_some]
    · have plain : escapeChar c = [c] := by simp [escapeChar, short, control]
      simp [plain, readPieces?, short, control]

theorem readPieces?_chars (text rest : List Char) :
    readPieces? (text.flatMap escapeChar ++ '"' :: rest) = some (text.map .char, rest) := by
  induction text with
  | nil => rfl
  | cons c text ih =>
      rw [List.flatMap_cons, List.append_assoc, readPieces?_escapeChar, ih]
      rfl

theorem joinPieces?_chars (text : List Char) :
    joinPieces? (text.map .char) = some text := by
  induction text with
  | nil => rfl
  | cons c text ih => simp [joinPieces?, ih]

/-- A string literal is read back, also one without a text. -/
theorem read?_stringChars (text : Option String) (rest : List Char) :
    read? (stringChars text ++ rest) = some (.string text, rest) := by
  cases text with
  | none => rfl
  | some text =>
      rw [stringChars, List.append_assoc, List.cons_append, read?, readString?]
      simp [readPieces?_chars, joinPieces?_chars]

end Token

/-! ## Numerals -/

namespace Numeral

/-- A numeral as the grammar has it: digits without a needless zero at their head, and digits in the
fraction and in the exponent if there are any. -/
structure IsWellFormed (numeral : Numeral) : Prop where
  whole_digits : ∀ c ∈ numeral.whole, c.isDigit = true
  whole_nonempty : numeral.whole ≠ []
  whole_head : numeral.whole.head? = some '0' → numeral.whole.length = 1
  fraction_digits : ∀ c ∈ numeral.fraction, c.isDigit = true
  exponent_digits : ∀ exponent ∈ numeral.exponent,
    exponent.2 ≠ [] ∧ ∀ c ∈ exponent.2, c.isDigit = true

theorem head?_toDigits_ne_zero {number : Nat} (positive : 0 < number) :
    (Nat.toDigits 10 number).head? ≠ some '0' := by
  induction number using Nat.strongRecOn with
  | ind number ih =>
      rcases Nat.lt_or_ge number 10 with small | large
      · rw [Nat.toDigits_of_lt_base small]
        intro zero
        have zero : number.digitChar = '0' := Option.some.inj zero
        rw [Nat.digitChar_eq_zero] at zero
        omega
      · have earlier := ih (number / 10) (by omega) (by omega)
        rw [Nat.toDigits_of_base_le (by decide) large]
        cases split : Nat.toDigits 10 (number / 10) with
        | nil => exact absurd split Nat.toDigits_ne_nil
        | cons c digits =>
            rw [split] at earlier
            exact earlier

theorem isWellFormed_ofInt (value : Int) : (ofInt value).IsWellFormed where
  whole_digits _ member := Nat.isDigit_of_mem_toDigits (by decide) (by decide) member
  whole_nonempty := Nat.toDigits_ne_nil
  whole_head zero := by
    rcases Nat.eq_zero_or_pos value.natAbs with none | positive
    · simp [ofInt, none]
    · exact absurd zero (head?_toDigits_ne_zero positive)
  fraction_digits := by simp [ofInt]
  exponent_digits := by simp [ofInt]

/-- The fraction with its point, if there is one. -/
def fractionChars (numeral : Numeral) : List Char :=
  if numeral.fraction.isEmpty then [] else '.' :: numeral.fraction

/-- The exponent with its mark and sign, if there is one. -/
def exponentChars (numeral : Numeral) : List Char :=
  match numeral.exponent with
  | none => []
  | some (isNegative, digits) => 'e' :: (if isNegative then ['-'] else []) ++ digits

theorem toChars_eq (numeral : Numeral) :
    numeral.toChars = (if numeral.negative then ['-'] else []) ++
      (numeral.whole ++ (numeral.fractionChars ++ numeral.exponentChars)) := by
  cases split : numeral.exponent with
  | none => simp [toChars, fractionChars, exponentChars, split]
  | some exponent => simp [toChars, fractionChars, exponentChars, split]

end Numeral

namespace Token

/-- A text that a numeral does not go on into. -/
def EndsNumeral (rest : List Char) : Prop :=
  ∀ c ∈ rest.head?, c.isDigit = false ∧ c ≠ '.' ∧ c ≠ 'e' ∧ c ≠ 'E'

variable {rest : List Char} {numeral : Numeral}

theorem EndsNumeral.endsDigits (ends : EndsNumeral rest) : EndsDigits rest :=
  fun c head => (ends c head).1

theorem digits_append {chars : List Char} (each : ∀ c ∈ chars, c.isDigit = true)
    (ends : EndsDigits rest) : digits (chars ++ rest) = chars :=
  takeWhile_digits each ends

theorem afterDigits_append {chars : List Char} (each : ∀ c ∈ chars, c.isDigit = true)
    (ends : EndsDigits rest) : afterDigits (chars ++ rest) = rest :=
  dropWhile_digits each ends

/-- After the digits of a numeral, its exponent or what follows it is no digit. -/
theorem endsDigits_exponentChars (ends : EndsDigits rest) :
    EndsDigits (numeral.exponentChars ++ rest) := by
  unfold Numeral.exponentChars
  split
  · exact ends
  · simp

theorem endsDigits_fractionChars (ends : EndsDigits rest) :
    EndsDigits (numeral.fractionChars ++ (numeral.exponentChars ++ rest)) := by
  unfold Numeral.fractionChars
  split
  · exact endsDigits_exponentChars ends
  · simp

theorem readFraction?_fractionChars (wellFormed : numeral.IsWellFormed)
    (ends : EndsNumeral rest) :
    readFraction? (numeral.fractionChars ++ (numeral.exponentChars ++ rest)) =
      some (numeral.fraction, numeral.exponentChars ++ rest) := by
  have later := @endsDigits_exponentChars rest numeral ends.endsDigits
  cases split : numeral.fraction with
  | nil =>
      have noPoint : (numeral.exponentChars ++ rest).head? ≠ some '.' := by
        unfold Numeral.exponentChars
        split
        · intro point
          exact (ends '.' point).2.1 rfl
        · simp
      simp only [Numeral.fractionChars, split, List.isEmpty_nil, if_true, List.nil_append]
      unfold readFraction?
      split
      · rename_i same
        rw [same] at noPoint
        exact absurd rfl noPoint
      · rfl
  | cons c fraction =>
      have each := wellFormed.fraction_digits
      rw [split] at each
      rw [Numeral.fractionChars, split]
      show readFraction? ('.' :: (c :: fraction ++ (numeral.exponentChars ++ rest))) = _
      rw [readFraction?, digits_append each later, afterDigits_append each later]
      rfl

theorem readExponentDigits?_append {isNegative : Bool} {chars : List Char}
    (nonempty : chars ≠ []) (each : ∀ c ∈ chars, c.isDigit = true) (ends : EndsDigits rest) :
    readExponentDigits? isNegative (chars ++ rest) = some (some (isNegative, chars), rest) := by
  simp [readExponentDigits?, digits_append each ends, afterDigits_append each ends, nonempty]

theorem readExponent?_exponentChars (wellFormed : numeral.IsWellFormed)
    (ends : EndsNumeral rest) :
    readExponent? (numeral.exponentChars ++ rest) = some (numeral.exponent, rest) := by
  cases split : numeral.exponent with
  | none =>
      rw [Numeral.exponentChars, split]
      cases rest with
      | nil => rfl
      | cons c rest =>
          have marks := ends c rfl
          simp [readExponent?, marks]
  | some exponent =>
      obtain ⟨isNegative, chars⟩ := exponent
      obtain ⟨nonempty, each⟩ := wellFormed.exponent_digits _ split
      have read {isNegative : Bool} := @readExponentDigits?_append rest isNegative chars nonempty
        each ends.endsDigits
      rw [Numeral.exponentChars, split]
      cases isNegative with
      | true => simp [readExponent?, read]
      | false =>
          -- the digits of an exponent without a sign start with neither of the signs
          cases chars with
          | nil => exact absurd rfl nonempty
          | cons c chars =>
              have isDigit := each c List.mem_cons_self
              show readExponent? ('e' :: (c :: chars ++ rest)) = _
              rw [readExponent?, if_pos (by rfl)]
              · exact read
              · rintro after same
                cases same
                simp at isDigit
              · rintro after same
                cases same
                simp at isDigit

theorem readNumeral?_chars (wellFormed : numeral.IsWellFormed) (ends : EndsNumeral rest) :
    readNumeral? numeral.negative
        (numeral.whole ++ (numeral.fractionChars ++ (numeral.exponentChars ++ rest))) =
      some (numeral, rest) := by
  have later := @endsDigits_fractionChars rest numeral ends.endsDigits
  have whole := digits_append wellFormed.whole_digits later
  have after := afterDigits_append wellFormed.whole_digits later
  have lead : (numeral.whole.isEmpty ||
      numeral.whole.head? == some '0' && numeral.whole.length != 1) = false := by
    have nonempty := wellFormed.whole_nonempty
    have head := wellFormed.whole_head
    by_cases zero : numeral.whole.head? = some '0'
    · simp [nonempty, head zero]
    · simp [nonempty, zero]
  rw [readNumeral?, whole, after, lead]
  simp [readFraction?_fractionChars wellFormed ends, readExponent?_exponentChars wellFormed ends]

theorem mark?_of_isDigit {c : Char} (isDigit : c.isDigit = true) : mark? c = none := by
  unfold mark?
  split <;> simp_all

/-- A text that starts with a digit starts with a numeral. -/
theorem read?_of_isDigit {c : Char} (isDigit : c.isDigit = true) :
    read? (c :: rest) =
      (readNumeral? false (c :: rest)).map fun found => (number found.1, found.2) := by
  have mark := mark?_of_isDigit isDigit
  unfold read?
  split <;> simp_all

theorem read?_numeral (wellFormed : numeral.IsWellFormed) (ends : EndsNumeral rest) :
    read? (numeral.toChars ++ rest) = some (number numeral, rest) := by
  have read := readNumeral?_chars wellFormed ends
  rw [Numeral.toChars_eq, List.append_assoc, List.append_assoc, List.append_assoc]
  cases sign : numeral.negative with
  | true =>
      rw [sign] at read
      show read? ('-' :: (numeral.whole ++
        (numeral.fractionChars ++ (numeral.exponentChars ++ rest)))) = _
      rw [read?, read]
      rfl
  | false =>
      rw [sign] at read
      obtain ⟨c, later, split⟩ := List.exists_cons_of_ne_nil wellFormed.whole_nonempty
      have isDigit := wellFormed.whole_digits c (by simp [split])
      rw [split] at read ⊢
      show read? (c :: _) = _
      rw [read?_of_isDigit isDigit]
      exact congrArg (Option.map _) read

/-! ## Texts -/

/-- A token whose numeral, if it is one, is well formed. -/
def IsWellFormed : Token → Prop
  | number numeral => numeral.IsWellFormed
  | _ => True

/-- Whether a token is one that needs to know what follows it. -/
def IsNumber : Token → Prop
  | number _ => True
  | _ => False

/-- A token is cut off the head of a text. -/
theorem read?_toChars {token : Token} (wellFormed : token.IsWellFormed)
    (ends : token.IsNumber → EndsNumeral rest) :
    read? (token.toChars ++ rest) = some (token, rest) := by
  cases token with
  | number numeral => exact read?_numeral wellFormed (ends trivial)
  | string text => exact read?_stringChars text rest
  | bool value => cases value <;> rfl
  | _ => rfl

/-- The tokens that a text spells, with white space between them. -/
inductive Spells : List Char → List Token → Prop where
  | done : Spells [] []
  | space {c : Char} {cs : List Char} {tokens : List Token} (isSpace : isSpace c = true)
      (later : Spells cs tokens) : Spells (c :: cs) tokens
  | token {token : Token} {cs rest : List Char} {tokens : List Token}
      (read : read? cs = some (token, rest)) (shorter : rest.length < cs.length)
      (later : Spells rest tokens) : Spells cs (token :: tokens)

theorem read?_of_isSpace {c : Char} (space : isSpace c = true) : read? (c :: rest) = none := by
  simp only [isSpace, Bool.or_eq_true, beq_iff_eq] at space
  rcases space with ((rfl | rfl) | rfl) | rfl <;> rfl

theorem Spells.scanWithin? {cs : List Char} {tokens : List Token} (spells : Spells cs tokens)
    {budget : Nat} (enough : cs.length ≤ budget) : scanWithin? budget cs = some tokens := by
  induction spells generalizing budget with
  | done => cases budget <;> rfl
  | space isSpace later ih =>
      cases budget with
      | zero => simp at enough
      | succ budget => simp [Token.scanWithin?, isSpace, ih (Nat.le_of_succ_le_succ enough)]
  | @token token cs rest tokens read shorter later ih =>
      cases cs with
      | nil => simp at shorter
      | cons c cs =>
          have notSpace : isSpace c = false := by
            cases space : isSpace c with
            | false => rfl
            | true =>
                rw [read?_of_isSpace space] at read
                cases read
          cases budget with
          | zero => simp at enough
          | succ budget =>
              have room : rest.length ≤ budget := by
                simp only [List.length_cons] at enough shorter
                omega
              simp [Token.scanWithin?, notSpace, read, ih room]

end Token

end LoanBook.Json
