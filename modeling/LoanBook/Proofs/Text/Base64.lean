import LoanBook.Text.Base64

/-!
# Base64 read back

Every list of bytes is decoded from its encoding, whatever the length of its last group.  The
encoding is ASCII, so its text has one byte for each symbol.
-/

namespace LoanBook.Text.Base64

theorem value?_symbol {value : Nat} (small : value < 64) : value? (symbol value) = some value := by
  have each : ∀ value < 64, value? (symbol value) = some value := by decide
  exact each value small

theorem symbol_ne_pad {value : Nat} (small : value < 64) : symbol value ≠ pad := by
  have each : ∀ value < 64, symbol value ≠ pad := by decide
  exact each value small

theorem symbol_lt {value : Nat} (small : value < 64) : (symbol value).toNat < 128 := by
  have each : ∀ value < 64, (symbol value).toNat < 128 := by decide
  exact each value small

@[simp]
theorem symbolAt_symbol {value : Nat} (small : value < 64) (offset : Nat) :
    symbolAt (symbol value) offset = .ok value := by
  rw [symbolAt, value?_symbol small]

/-! ## The last group -/

theorem filterMap_value?_symbols {values : List Nat} (small : ∀ value ∈ values, value < 64) :
    (values.map symbol).filterMap value? = values := by
  induction values with
  | nil => rfl
  | cons value values ih =>
      obtain ⟨first, later⟩ := List.forall_mem_cons.mp small
      rw [List.map_cons, List.filterMap_cons_some (value?_symbol first), ih later]

theorem lastSymbols_symbols {values : List Nat} {padding : Nat} (offset : Nat)
    (small : ∀ value ∈ values, value < 64) (room : 2 ≤ values.length ∨ padding = 0) :
    lastSymbols offset (values.map symbol ++ List.replicate padding pad) =
      .ok (values, padding) := by
  have symbols : ∀ byte ∈ values.map symbol, (byte != pad) = true := by
    intro byte member
    obtain ⟨value, valueMem, rfl⟩ := List.mem_map.mp member
    simpa using symbol_ne_pad (small value valueMem)
  have known : (values.map symbol).findIdx? (fun byte => (value? byte).isNone) = none := by
    rw [List.findIdx?_eq_none_iff]
    intro byte member
    obtain ⟨value, valueMem, rfl⟩ := List.mem_map.mp member
    simp [value?_symbol (small value valueMem)]
  have taken : (values.map symbol ++ List.replicate padding pad).takeWhile (· != pad) =
      values.map symbol := by
    rw [List.takeWhile_append_of_pos symbols]
    cases padding <;> simp [List.replicate_succ]
  have dropped : (values.map symbol ++ List.replicate padding pad).dropWhile (· != pad) =
      List.replicate padding pad := by
    rw [List.dropWhile_append_of_pos symbols]
    cases padding <;> simp [List.replicate_succ]
  unfold lastSymbols
  dsimp only
  rw [taken, dropped, known]
  dsimp only
  rw [filterMap_value?_symbols small]
  cases padding with
  | zero => rfl
  | succ padding =>
      have enough : 2 ≤ values.length := by omega
      simp [List.replicate_succ, Nat.not_lt.mpr enough]

/-! ## Groups of three bytes -/

section Groups

variable (a b c : UInt8)

theorem symbols_lt_one : ∀ value ∈ [a.toNat / 4, a.toNat % 4 * 16], value < 64 := by
  have := a.toNat_lt
  simp
  omega

theorem symbols_lt_two :
    ∀ value ∈ [a.toNat / 4, a.toNat % 4 * 16 + b.toNat / 16, b.toNat % 16 * 4], value < 64 := by
  have := a.toNat_lt
  have := b.toNat_lt
  simp
  omega

theorem symbols_lt_three :
    ∀ value ∈ [a.toNat / 4, a.toNat % 4 * 16 + b.toNat / 16, b.toNat % 16 * 4 + c.toNat / 64,
      c.toNat % 64], value < 64 := by
  have := a.toNat_lt
  have := b.toNat_lt
  have := c.toNat_lt
  simp
  omega

theorem ofNat_eq_of_eq_toNat {byte : UInt8} {value : Nat} (same : value = byte.toNat) :
    UInt8.ofNat value = byte := by
  rw [same, UInt8.ofNat_toNat]

theorem decodeLast_one (offset : Nat) : decodeLast offset (encodeBytes [a]) = .ok [a] := by
  have found : lastSymbols offset (encodeBytes [a]) =
      .ok ([a.toNat / 4, a.toNat % 4 * 16], 2) :=
    @lastSymbols_symbols _ 2 offset (symbols_lt_one a) (by simp)
  have first : UInt8.ofNat (a.toNat / 4 * 4 + a.toNat % 4 * 16 / 16) = a :=
    ofNat_eq_of_eq_toNat (by omega)
  rw [decodeLast, found]
  simp only [bind, Except.bind]
  rw [if_neg (by simp), if_neg (by simp), if_pos (by omega), first]

theorem decodeLast_two (offset : Nat) : decodeLast offset (encodeBytes [a, b]) = .ok [a, b] := by
  have found : lastSymbols offset (encodeBytes [a, b]) =
      .ok ([a.toNat / 4, a.toNat % 4 * 16 + b.toNat / 16, b.toNat % 16 * 4], 1) :=
    @lastSymbols_symbols _ 1 offset (symbols_lt_two a b) (by simp)
  have := b.toNat_lt
  have first : UInt8.ofNat (a.toNat / 4 * 4 + (a.toNat % 4 * 16 + b.toNat / 16) / 16) = a :=
    ofNat_eq_of_eq_toNat (by omega)
  have second : UInt8.ofNat ((a.toNat % 4 * 16 + b.toNat / 16) % 16 * 16 +
      b.toNat % 16 * 4 / 4) = b :=
    ofNat_eq_of_eq_toNat (by omega)
  rw [decodeLast, found]
  simp only [bind, Except.bind]
  rw [if_neg (by simp), if_neg (by simp), if_pos (by omega), first, second]

/-- Four symbols hold the three bytes that they were made of. -/
theorem bytes_of_symbols :
    [UInt8.ofNat (a.toNat / 4 * 4 + (a.toNat % 4 * 16 + b.toNat / 16) / 16),
      UInt8.ofNat ((a.toNat % 4 * 16 + b.toNat / 16) % 16 * 16 +
        (b.toNat % 16 * 4 + c.toNat / 64) / 4),
      UInt8.ofNat ((b.toNat % 16 * 4 + c.toNat / 64) % 4 * 64 + c.toNat % 64)] = [a, b, c] := by
  have := b.toNat_lt
  have := c.toNat_lt
  rw [@ofNat_eq_of_eq_toNat a _ (by omega), @ofNat_eq_of_eq_toNat b _ (by omega),
    @ofNat_eq_of_eq_toNat c _ (by omega)]

theorem decodeLast_three (offset : Nat) :
    decodeLast offset (encodeBytes [a, b, c]) = .ok [a, b, c] := by
  have found : lastSymbols offset (encodeBytes [a, b, c]) =
      .ok ([a.toNat / 4, a.toNat % 4 * 16 + b.toNat / 16, b.toNat % 16 * 4 + c.toNat / 64,
        c.toNat % 64], 0) :=
    @lastSymbols_symbols _ 0 offset (symbols_lt_three a b c) (by simp)
  rw [decodeLast, found]
  simp only [bind, Except.bind]
  rw [if_neg (by simp), if_neg (by simp), bytes_of_symbols]

end Groups

theorem decodeGroups_encodeBytes (bytes : List UInt8) (offset : Nat) :
    decodeGroups offset (encodeBytes bytes) = .ok bytes := by
  induction bytes using encodeBytes.induct generalizing offset with
  | case1 => rfl
  | case2 a => exact decodeLast_one a offset
  | case3 a b => exact decodeLast_two a b offset
  | case4 a b c rest ih =>
      cases split : encodeBytes rest with
      | nil =>
          have none : rest = [] := by
            have none := ih 0
            rw [split] at none
            cases none
            rfl
          rw [none]
          exact decodeLast_three a b c offset
      | cons next later =>
          obtain ⟨first, second, third, fourth, _⟩ :
              a.toNat / 4 < 64 ∧ a.toNat % 4 * 16 + b.toNat / 16 < 64 ∧
                b.toNat % 16 * 4 + c.toNat / 64 < 64 ∧ c.toNat % 64 < 64 ∧ _ := by
            simpa only [List.mem_cons, forall_eq_or_imp] using symbols_lt_three a b c
          have bytes := bytes_of_symbols a b c
          simp only [List.cons.injEq] at bytes
          have decoded := ih (offset + 4)
          rw [split] at decoded
          rw [encodeBytes, split, decodeGroups, symbolAt_symbol first, symbolAt_symbol second,
            symbolAt_symbol third, symbolAt_symbol fourth, decoded]
          simp only [bind, Except.bind, pure, Except.pure, bytes]

/-! ## Texts -/

theorem length_encodeBytes (bytes : List UInt8) : (encodeBytes bytes).length % 4 = 0 := by
  induction bytes using encodeBytes.induct with
  | case1 => rfl
  | case2 a => simp [encodeBytes]
  | case3 a b => simp [encodeBytes]
  | case4 a b c rest ih =>
      simp only [encodeBytes, List.length_cons]
      omega

theorem lt_of_mem_encodeBytes {bytes : List UInt8} :
    ∀ byte ∈ encodeBytes bytes, byte.toNat < 128 := by
  have symbols {values : List Nat} (small : ∀ value ∈ values, value < 64) :
      ∀ byte ∈ values.map symbol, byte.toNat < 128 := by
    intro byte member
    obtain ⟨value, valueMem, rfl⟩ := List.mem_map.mp member
    exact symbol_lt (small value valueMem)
  have padding : pad.toNat < 128 := by decide
  induction bytes using encodeBytes.induct with
  | case1 => simp [encodeBytes]
  | case2 a =>
      have small := symbols (symbols_lt_one a)
      simp only [List.map_cons, List.map_nil, List.forall_mem_cons] at small
      simp [encodeBytes, small, padding]
  | case3 a b =>
      have small := symbols (symbols_lt_two a b)
      simp only [List.map_cons, List.map_nil, List.forall_mem_cons] at small
      simp [encodeBytes, small, padding]
  | case4 a b c rest ih =>
      have small := symbols (symbols_lt_three a b c)
      simp only [List.map_cons, List.map_nil, List.forall_mem_cons] at small
      simpa [encodeBytes, small] using ih

theorem utf8_ofList {bytes : List UInt8} (ascii : ∀ byte ∈ bytes, byte.toNat < 128) :
    utf8 (String.ofList (bytes.map fun byte => Char.ofNat byte.toNat)) = bytes := by
  have single : ∀ code < 128,
      String.utf8EncodeChar (Char.ofNat code) = [UInt8.ofNat code] := by
    decide +kernel
  rw [utf8, String.toList_ofList]
  induction bytes with
  | nil => rfl
  | cons byte bytes ih =>
      obtain ⟨first, later⟩ := List.forall_mem_cons.mp ascii
      rw [List.map_cons, List.flatMap_cons, single _ first, UInt8.ofNat_toNat, ih later]
      rfl

theorem decodeBytes_encodeBytes (bytes : List UInt8) :
    decodeBytes (encodeBytes bytes) = .ok bytes := by
  rw [decodeBytes]
  split
  · rw [if_neg (by simp [length_encodeBytes]), decodeGroups_encodeBytes]
  · exact decodeGroups_encodeBytes bytes 0

theorem utf8_encode (bytes : List UInt8) : utf8 (encode bytes) = encodeBytes bytes :=
  utf8_ofList lt_of_mem_encodeBytes

@[simp]
theorem decode_encode (bytes : List UInt8) : decode (encode bytes) = .ok bytes := by
  rw [decode, utf8_encode, decodeBytes_encodeBytes]

end LoanBook.Text.Base64
