import LoanBook.Proofs.Failure.Steps
import LoanBook.Proofs.Text.Base64

/-!
# The texts that base64 produces

Encoding produces exactly the texts of whole groups whose padding is complete and whose discarded
bits are zero, and nothing but these is decoded.  So bytes have one spelling: a text is decoded to
some bytes exactly when it is their encoding.
-/

namespace LoanBook.Text.Base64

/-- Groups of four symbols.  The last group may have two or three symbols for one or two bytes; then
it is filled up with padding, and the bits of its last symbol that belong to no byte are zero. -/
inductive IsCanonical : List UInt8 → Prop where
  | empty : IsCanonical []
  | oneByte {a b : Nat} (aLt : a < 64) (bLt : b < 64) (zeroBits : b % 16 = 0) :
      IsCanonical [symbol a, symbol b, pad, pad]
  | twoBytes {a b c : Nat} (aLt : a < 64) (bLt : b < 64) (cLt : c < 64) (zeroBits : c % 4 = 0) :
      IsCanonical [symbol a, symbol b, symbol c, pad]
  | group {a b c d : Nat} {rest : List UInt8} (aLt : a < 64) (bLt : b < 64) (cLt : c < 64)
      (dLt : d < 64) (later : IsCanonical rest) :
      IsCanonical (symbol a :: symbol b :: symbol c :: symbol d :: rest)

/-! ## Encodings -/

theorem isCanonical_encodeBytes (bytes : List UInt8) : IsCanonical (encodeBytes bytes) := by
  induction bytes using encodeBytes.induct with
  | case1 => exact .empty
  | case2 a =>
      obtain ⟨first, second, _⟩ := List.forall_mem_cons.mp (symbols_lt_one a) |>.imp_right
        List.forall_mem_cons.mp
      exact .oneByte first second (by omega)
  | case3 a b =>
      have small := symbols_lt_two a b
      simp only [List.forall_mem_cons] at small
      exact .twoBytes small.1 small.2.1 small.2.2.1 (by omega)
  | case4 a b c rest ih =>
      have small := symbols_lt_three a b c
      simp only [List.forall_mem_cons] at small
      exact .group small.1 small.2.1 small.2.2.1 small.2.2.2.1 ih

theorem toNat_ofNat_of_lt {value : Nat} (small : value < 256) : (UInt8.ofNat value).toNat = value :=
  UInt8.toNat_ofNat_of_lt' small

/-- The bytes of a group of symbols are encoded as these symbols. -/
theorem encodeBytes_group {a b c d : Nat} (bytes : List UInt8) (aLt : a < 64) (bLt : b < 64)
    (cLt : c < 64) (dLt : d < 64) :
    encodeBytes (UInt8.ofNat (a * 4 + b / 16) :: UInt8.ofNat (b % 16 * 16 + c / 4) ::
      UInt8.ofNat (c % 4 * 64 + d) :: bytes) =
      symbol a :: symbol b :: symbol c :: symbol d :: encodeBytes bytes := by
  have first : (a * 4 + b / 16) / 4 = a := by omega
  have second : (a * 4 + b / 16) % 4 * 16 + (b % 16 * 16 + c / 4) / 16 = b := by omega
  have third : (b % 16 * 16 + c / 4) % 16 * 4 + (c % 4 * 64 + d) / 64 = c := by omega
  have fourth : (c % 4 * 64 + d) % 64 = d := by omega
  rw [encodeBytes, toNat_ofNat_of_lt (by omega), toNat_ofNat_of_lt (by omega),
    toNat_ofNat_of_lt (by omega), first, second, third, fourth]

theorem IsCanonical.exists_encodeBytes {text : List UInt8} (canonical : IsCanonical text) :
    ∃ bytes, encodeBytes bytes = text := by
  induction canonical with
  | empty => exact ⟨[], rfl⟩
  | @oneByte a b aLt bLt zeroBits =>
      refine ⟨[UInt8.ofNat (a * 4 + b / 16)], ?_⟩
      have first : (a * 4 + b / 16) / 4 = a := by omega
      have second : (a * 4 + b / 16) % 4 * 16 = b := by omega
      rw [encodeBytes, toNat_ofNat_of_lt (by omega), first, second]
  | @twoBytes a b c aLt bLt cLt zeroBits =>
      refine ⟨[UInt8.ofNat (a * 4 + b / 16), UInt8.ofNat (b % 16 * 16 + c / 4)], ?_⟩
      have first : (a * 4 + b / 16) / 4 = a := by omega
      have second : (a * 4 + b / 16) % 4 * 16 + (b % 16 * 16 + c / 4) / 16 = b := by omega
      have third : (b % 16 * 16 + c / 4) % 16 * 4 = c := by omega
      rw [encodeBytes, toNat_ofNat_of_lt (by omega), toNat_ofNat_of_lt (by omega),
        first, second, third]
  | group aLt bLt cLt dLt later ih =>
      obtain ⟨bytes, rfl⟩ := ih
      exact ⟨_, encodeBytes_group bytes aLt bLt cLt dLt⟩

/-! ## Decoding -/

/-- A byte with a value is the symbol of that value. -/
theorem symbol_of_value? {byte : UInt8} {value : Nat} (known : value? byte = some value) :
    value < 64 ∧ symbol value = byte := by
  have each : ∀ code < 256, ∀ value ∈ value? (UInt8.ofNat code),
      value < 64 ∧ symbol value = UInt8.ofNat code := by
    decide +kernel
  have found := each byte.toNat byte.toNat_lt value
  rw [UInt8.ofNat_toNat] at found
  exact found known

theorem symbolAt_eq_ok {byte : UInt8} {offset value : Nat}
    (reads : symbolAt byte offset = .ok value) : value < 64 ∧ symbol value = byte := by
  unfold symbolAt at reads
  cases known : value? byte with
  | none =>
      rw [known] at reads
      cases reads
  | some found =>
      rw [known] at reads
      cases reads
      exact symbol_of_value? known

/-- Bytes that all have a value are the symbols of their values. -/
theorem map_symbol_values {bytes : List UInt8}
    (known : ∀ byte ∈ bytes, (value? byte).isNone = false) :
    (bytes.filterMap value?).map symbol = bytes ∧ ∀ value ∈ bytes.filterMap value?, value < 64 := by
  induction bytes with
  | nil => simp
  | cons byte bytes ih =>
      obtain ⟨first, later⟩ := List.forall_mem_cons.mp known
      cases found : value? byte with
      | none => simp [found] at first
      | some value =>
          obtain ⟨small, same⟩ := symbol_of_value? found
          obtain ⟨symbols, smaller⟩ := ih later
          rw [List.filterMap_cons_some found, List.map_cons, same, symbols]
          exact ⟨rfl, List.forall_mem_cons.mpr ⟨small, smaller⟩⟩

/-- What is read of the last group is all that it consists of: symbols, then padding if there are two
symbols at least. -/
theorem lastSymbols_eq_ok {offset padding : Nat} {bytes : List UInt8} {values : List Nat}
    (reads : lastSymbols offset bytes = .ok (values, padding)) :
    bytes = values.map symbol ++ List.replicate padding pad ∧ (∀ value ∈ values, value < 64) ∧
      (2 ≤ values.length ∨ padding = 0) := by
  have split := @List.takeWhile_append_dropWhile _ (· != pad) bytes
  unfold lastSymbols at reads
  dsimp only at reads
  generalize bytes.takeWhile (· != pad) = symbols at split reads
  generalize bytes.dropWhile (· != pad) = tail at split reads
  cases unknown : symbols.findIdx? (fun byte => (value? byte).isNone) with
  | some index =>
      rw [unknown] at reads
      cases reads
  | none =>
      obtain ⟨same, small⟩ := map_symbol_values (List.findIdx?_eq_none_iff.mp unknown)
      rw [unknown] at reads
      dsimp only at reads
      by_cases alone : tail.isEmpty = true
      · rw [if_pos alone] at reads
        cases reads
        rw [List.isEmpty_iff.mp alone, List.append_nil] at split
        refine ⟨?_, small, Or.inr rfl⟩
        rw [same, split, List.replicate_zero, List.append_nil]
      · rw [if_neg alone] at reads
        by_cases refused : symbols.length < 2 ∨ tail.any (· != pad) = true
        · rw [if_pos refused] at reads
          cases reads
        · rw [if_neg refused] at reads
          cases reads
          obtain ⟨enough, noOther⟩ := not_or.mp refused
          have onlyPadding : ∀ byte ∈ tail, byte = pad := by simpa using noOther
          have padded : tail = List.replicate tail.length pad :=
            List.eq_replicate_iff.mpr ⟨rfl, onlyPadding⟩
          have counted := congrArg List.length same
          rw [List.length_map] at counted
          refine ⟨?_, small, Or.inl (by omega)⟩
          rw [same, ← padded, split]

theorem isCanonical_of_decodeLast {offset : Nat} {bytes decoded : List UInt8}
    (few : bytes.length ≤ 4) (decodes : decodeLast offset bytes = .ok decoded) :
    IsCanonical bytes := by
  unfold decodeLast at decodes
  cases reads : lastSymbols offset bytes with
  | error fault =>
      rw [reads] at decodes
      cases decodes
  | ok found =>
      obtain ⟨values, padding⟩ := found
      obtain ⟨rfl, small, room⟩ := lastSymbols_eq_ok reads
      rw [reads] at decodes
      simp only [bind, Except.bind] at decodes
      rw [List.length_append, List.length_map, List.length_replicate] at few
      have whole : (values.length + padding) % 4 = 0 := by
        by_contra incomplete
        rw [if_pos incomplete] at decodes
        split at decodes
        · cases decodes
        · cases decodes
      match values with
      | [] =>
          have none : padding = 0 := room.resolve_left (by simp)
          rw [none]
          exact .empty
      | [_] =>
          simp only [List.length_cons, List.length_nil] at room whole
          omega
      | [a, b] =>
          simp only [List.length_cons, List.length_nil] at few whole
          have padded : padding = 2 := by omega
          simp only [List.forall_mem_cons] at small
          have zeroBits : b % 16 = 0 := by
            by_contra spare
            simp [padded, spare] at decodes
          rw [padded]
          exact .oneByte small.1 small.2.1 zeroBits
      | [a, b, c] =>
          simp only [List.length_cons, List.length_nil] at few whole
          have padded : padding = 1 := by omega
          simp only [List.forall_mem_cons] at small
          have zeroBits : c % 4 = 0 := by
            by_contra spare
            simp [padded, spare] at decodes
          rw [padded]
          exact .twoBytes small.1 small.2.1 small.2.2.1 zeroBits
      | [a, b, c, d] =>
          simp only [List.length_cons, List.length_nil] at few
          have none : padding = 0 := by omega
          simp only [List.forall_mem_cons] at small
          rw [none]
          exact .group small.1 small.2.1 small.2.2.1 small.2.2.2.1 .empty
      | _ :: _ :: _ :: _ :: _ :: _ =>
          simp only [List.length_cons] at few
          omega

theorem isCanonical_of_decodeGroups {offset : Nat} {bytes decoded : List UInt8}
    (decodes : decodeGroups offset bytes = .ok decoded) : IsCanonical bytes := by
  induction offset, bytes using decodeGroups.induct generalizing decoded with
  | case1 offset a b c d e rest ih =>
      rw [decodeGroups] at decodes
      obtain ⟨first, aReads, decodes⟩ := bind_eq_ok_iff.mp decodes
      obtain ⟨second, bReads, decodes⟩ := bind_eq_ok_iff.mp decodes
      obtain ⟨third, cReads, decodes⟩ := bind_eq_ok_iff.mp decodes
      obtain ⟨fourth, dReads, decodes⟩ := bind_eq_ok_iff.mp decodes
      obtain ⟨later, laterDecodes, _⟩ := bind_eq_ok_iff.mp decodes
      obtain ⟨firstLt, rfl⟩ := symbolAt_eq_ok aReads
      obtain ⟨secondLt, rfl⟩ := symbolAt_eq_ok bReads
      obtain ⟨thirdLt, rfl⟩ := symbolAt_eq_ok cReads
      obtain ⟨fourthLt, rfl⟩ := symbolAt_eq_ok dReads
      exact .group firstLt secondLt thirdLt fourthLt (ih laterDecodes)
  | case2 offset bytes short =>
      have few : bytes.length ≤ 4 := by
        rcases bytes with _ | ⟨a, _ | ⟨b, _ | ⟨c, _ | ⟨d, _ | ⟨e, rest⟩⟩⟩⟩⟩
        case cons.cons.cons.cons.cons => exact (short a b c d e rest rfl).elim
        all_goals simp
      rw [decodeGroups.eq_2 _ _ short] at decodes
      exact isCanonical_of_decodeLast few decodes

/-- Nothing but the encoding of some bytes is decoded to them. -/
theorem decodeBytes_eq_ok_iff {text bytes : List UInt8} :
    decodeBytes text = .ok bytes ↔ text = encodeBytes bytes := by
  constructor
  · intro decodes
    have groups : decodeGroups 0 text = .ok bytes := by
      unfold decodeBytes at decodes
      split at decodes
      · split at decodes
        · cases decodes
        · exact decodes
      · exact decodes
    -- what is decoded is some encoding, and that of the bytes it is decoded to
    obtain ⟨others, rfl⟩ := (isCanonical_of_decodeGroups groups).exists_encodeBytes
    cases (decodeGroups_encodeBytes others 0).symm.trans groups
    rfl
  · rintro rfl
    exact decodeBytes_encodeBytes bytes

/-! ## Texts -/

theorem utf8_injective {text other : String} (same : utf8 text = utf8 other) : text = other := by
  have bytes : text.toList.utf8Encode = other.toList.utf8Encode := congrArg List.toByteArray same
  rwa [← String.toByteArray_ofList, ← String.toByteArray_ofList, String.ofList_toList,
    String.ofList_toList, String.toByteArray_inj] at bytes

theorem decode_eq_ok_iff {text : String} {bytes : List UInt8} :
    decode text = .ok bytes ↔ text = encode bytes := by
  rw [decode, decodeBytes_eq_ok_iff, ← utf8_encode]
  exact ⟨utf8_injective, congrArg utf8⟩

theorem isCanonical_utf8_iff {text : String} :
    IsCanonical (utf8 text) ↔ ∃ bytes, text = encode bytes := by
  constructor
  · intro canonical
    obtain ⟨bytes, same⟩ := canonical.exists_encodeBytes
    exact ⟨bytes, utf8_injective (same.symm.trans (utf8_encode bytes).symm)⟩
  · rintro ⟨bytes, rfl⟩
    rw [utf8_encode]
    exact isCanonical_encodeBytes bytes

end LoanBook.Text.Base64
