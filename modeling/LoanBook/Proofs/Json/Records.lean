import LoanBook.Json.Record
import LoanBook.Proofs.Json.Documents
import Mathlib.Data.List.Nodup
import Mathlib.Data.Option.Basic

/-!
# Records read back

The fields of a record are found in the object that it is written as, when no two of them have the
same name.  What is written of a list or of an optional value is read back when what is written of
a value is.
-/

namespace LoanBook.Json

/-! ## Fields -/

section Fields

variable {fields : List Field} {members : List (String × Json)}

/-- Only one member has the name of a member, if the names are distinct. -/
theorem membersNamed_of_mem (distinct : (members.map Prod.fst).Nodup) {entry : String × Json}
    (member : entry ∈ members) :
    membersNamed entry.1 (members.map fun other => (some other.1, other.2)) = [entry.2] := by
  induction members with
  | nil => cases member
  | cons first others ih =>
      rw [List.map_cons, List.nodup_cons] at distinct
      rcases List.mem_cons.mp member with rfl | later
      · have others (name : String) (value : Json) (later : (name, value) ∈ others) :
            name ≠ entry.1 := by
          intro same
          exact distinct.1 (List.mem_map.mpr ⟨_, later, same⟩)
        simpa [membersNamed, List.filter_map, Function.comp_def] using others
      · have differs : first.1 ≠ entry.1 := by
          intro same
          exact distinct.1 (same ▸ List.mem_map_of_mem later)
        simpa [membersNamed, differs] using ih distinct.2 later

theorem mapM_inObject? {entries : List (String × Json)} {all : List (Option String × Json)}
    (names : entries.map Prod.fst = fields.map Field.name)
    (each : ∀ entry ∈ entries, membersNamed entry.1 all = [entry.2]) :
    fields.mapM (Field.inObject? all) = some (entries.map fun entry => some entry.2) := by
  induction entries generalizing fields with
  | nil =>
      cases fields with
      | nil => rfl
      | cons field fields => simp at names
  | cons entry entries ih =>
      cases fields with
      | nil => simp at names
      | cons field fields =>
          simp only [List.map_cons, List.cons.injEq] at names
          obtain ⟨first, others⟩ := List.forall_mem_cons.mp each
          rw [names.1] at first
          simp [List.mapM_cons, Field.inObject?, first, ih names.2 others]

/-- A record of distinct fields is read field by field. -/
theorem fields?_record (names : members.map Prod.fst = fields.map Field.name)
    (distinct : (members.map Prod.fst).Nodup) :
    fields? fields (record members) = some (members.map fun entry => some entry.2) := by
  have all : (members.map fun entry => (some entry.1, entry.2)).all
      (fun entry => entry.1.isSome) = true := by
    simp
  rw [record, fields?, if_pos all]
  exact mapM_inObject? names fun entry member => membersNamed_of_mem distinct member

end Fields

/-! ## Plain values -/

@[simp]
theorem asText?_text (value : String) : (text value).asText? = some value :=
  rfl

theorem int?_ofInt {value : Int} (least : -2 ^ 63 ≤ value) (most : value < 2 ^ 64) :
    (Numeral.ofInt value).int? = some value := by
  unfold Numeral.int? Numeral.ofInt
  dsimp only
  rw [Nat.ofDigitChars_ten_toDigits, if_neg (by simp)]
  by_cases negative : value < 0
  · rw [if_pos (by simpa using negative), if_pos (by omega)]
    exact congrArg some (by omega)
  · rw [if_neg (by simpa using negative), if_pos (by omega)]
    exact congrArg some (by omega)

theorem asInt?_int {value : Int} (least : -2 ^ 63 ≤ value) (most : value < 2 ^ 64) :
    (int value).asInt? = some value :=
  int?_ofInt least most

@[simp]
theorem asUInt32?_int (count : UInt32) : (int count.toNat).asUInt32? = some count := by
  have small := count.toNat_lt
  have inRange : 0 ≤ (count.toNat : Int) ∧ (count.toNat : Int) < 2 ^ 32 := by omega
  rw [asUInt32?, asInt?_int (by omega) (by omega), Option.bind_some, if_pos inRange,
    Int.toNat_natCast, UInt32.ofNat_toNat]

@[simp]
theorem asInt64?_int (value : Int64) : (int value.toInt).asInt64? = some value := by
  have least := value.le_toInt
  have most := value.toInt_lt
  rw [asInt64?, asInt?_int (by omega) (by omega), Option.bind_some, if_pos most,
    Int64.ofInt_toInt]

/-! ## Lists and optional values -/

section Nested

variable {α : Type} {write : α → Json} {read? : Json → Option α} {Agrees : α → α → Prop}

/-- What is written of a value is read as a value that agrees with it. -/
def ReadsBack (write : α → Json) (read? : Json → Option α) (Agrees : α → α → Prop) : Prop :=
  ∀ value, ∃ found, read? (write value) = some found ∧ Agrees value found

theorem ReadsBack.list (reads : ReadsBack write read? Agrees) :
    ReadsBack (list write) (asList? read?) (List.Forall₂ Agrees) := by
  intro values
  induction values with
  | nil => exact ⟨[], rfl, .nil⟩
  | cons value values ih =>
      obtain ⟨first, firstRead, agrees⟩ := reads value
      obtain ⟨others, othersRead, agree⟩ := ih
      have othersRead : (values.map write).mapM read? = some others := othersRead
      refine ⟨first :: others, ?_, .cons agrees agree⟩
      simp [Json.list, asList?, List.mapM_cons, firstRead, othersRead]

theorem asNullable?_of_ne_null {document : Json} (nonnull : document ≠ .null) :
    asNullable? read? document = (read? document).map some := by
  cases document with
  | null => exact absurd rfl nonnull
  | _ => rfl

theorem ReadsBack.nullable (reads : ReadsBack write read? Agrees)
    (nonnull : ∀ value, write value ≠ .null) :
    ReadsBack (nullable write) (asNullable? read?) (Option.Rel Agrees) := by
  intro value
  cases value with
  | none => exact ⟨none, rfl, .none⟩
  | some value =>
      obtain ⟨found, foundRead, agrees⟩ := reads value
      refine ⟨some found, ?_, .some agrees⟩
      rw [Json.nullable, asNullable?_of_ne_null (nonnull value), foundRead]
      rfl

/-- A value that is read back as it is stays so when it is optional. -/
theorem asNullable?_nullable (reads : ∀ value, read? (write value) = some value)
    (nonnull : ∀ value, write value ≠ .null) (value : Option α) :
    asNullable? read? (nullable write value) = some value := by
  cases value with
  | none => rfl
  | some value =>
      rw [Json.nullable, asNullable?_of_ne_null (nonnull value), reads]
      rfl

end Nested

/-! ## Well-formed documents -/

@[simp]
theorem isWellFormed_null : IsWellFormed .null := by
  simp [IsWellFormed, tokens, Token.IsWellFormed]

@[simp]
theorem isWellFormed_text (value : String) : (text value).IsWellFormed := by
  simp [IsWellFormed, text, tokens, Token.IsWellFormed]

@[simp]
theorem isWellFormed_int (value : Int) : (int value).IsWellFormed := by
  simp [IsWellFormed, int, tokens, Token.IsWellFormed, Numeral.isWellFormed_ofInt]

theorem isWellFormed_elementTokens {elements : List Json}
    (each : ∀ element ∈ elements, element.IsWellFormed) :
    ∀ token ∈ elementTokens elements, token.IsWellFormed := by
  match elements with
  | [] => simp [elementTokens]
  | [element] =>
      rw [elementTokens]
      exact each element List.mem_cons_self
  | element :: next :: others =>
      obtain ⟨first, later⟩ := List.forall_mem_cons.mp each
      have rest := isWellFormed_elementTokens later
      simp only [elementTokens, List.forall_mem_append, List.forall_mem_cons]
      exact ⟨first, trivial, rest⟩

theorem isWellFormed_memberTokens {members : List (Option String × Json)}
    (each : ∀ member ∈ members, member.2.IsWellFormed) :
    ∀ token ∈ memberTokens members, token.IsWellFormed := by
  match members with
  | [] => simp [memberTokens]
  | [(key, value)] =>
      have only := each (key, value) List.mem_cons_self
      simp only [memberTokens, List.forall_mem_cons]
      exact ⟨trivial, trivial, only⟩
  | (key, value) :: next :: others =>
      obtain ⟨first, later⟩ := List.forall_mem_cons.mp each
      have rest := isWellFormed_memberTokens later
      simp only [memberTokens, List.forall_mem_append, List.forall_mem_cons]
      exact ⟨⟨trivial, trivial, first⟩, trivial, rest⟩

/-- A record is well formed when its members are. -/
@[simp]
theorem isWellFormed_record {members : List (String × Json)}
    (each : ∀ member ∈ members, member.2.IsWellFormed) : (record members).IsWellFormed := by
  have inner : ∀ token ∈ memberTokens (members.map fun entry => (some entry.1, entry.2)),
      token.IsWellFormed := by
    apply isWellFormed_memberTokens
    intro member memberMem
    obtain ⟨entry, entryMem, rfl⟩ := List.mem_map.mp memberMem
    exact each entry entryMem
  simp only [record, IsWellFormed, tokens, List.forall_mem_append, List.forall_mem_cons]
  exact ⟨⟨trivial, inner⟩, trivial, by simp⟩

@[simp]
theorem isWellFormed_list {α : Type} {write : α → Json} {values : List α}
    (each : ∀ value, (write value).IsWellFormed) : (list write values).IsWellFormed := by
  have inner := @isWellFormed_elementTokens (values.map write) (by simp [each])
  simp only [list, IsWellFormed, tokens, List.forall_mem_append, List.forall_mem_cons]
  exact ⟨⟨trivial, inner⟩, trivial, by simp⟩

@[simp]
theorem isWellFormed_nullable {α : Type} {write : α → Json} {value : Option α}
    (each : ∀ value, (write value).IsWellFormed) : (nullable write value).IsWellFormed := by
  cases value with
  | none => exact isWellFormed_null
  | some value => exact each value

end LoanBook.Json
