import LoanBook.Failure
import Mathlib.Data.List.Forall2

/-!
# Steps that may fail

A computation that may fail is taken apart at its steps: it succeeds when every step does, and it
fails with the failure of its first step that fails.
-/

namespace LoanBook

variable {ε α β : Type}

theorem bind_eq_ok_iff {step : Except ε α} {next : α → Except ε β} {result : β} :
    step >>= next = .ok result ↔ ∃ value, step = .ok value ∧ next value = .ok result := by
  cases step with
  | error failure =>
      constructor
      · intro none
        cases none
      · rintro ⟨_, none, _⟩
        cases none
  | ok value =>
      constructor
      · intro ended
        exact ⟨value, rfl, ended⟩
      · rintro ⟨_, same, ended⟩
        cases same
        exact ended

theorem map_eq_ok_iff {step : Except ε α} {transform : α → β} {result : β} :
    step.map transform = .ok result ↔ ∃ value, step = .ok value ∧ transform value = result := by
  cases step <;> simp [Except.map]

theorem bind_eq_error_iff {step : Except ε α} {next : α → Except ε β} {failure : ε} :
    step >>= next = .error failure ↔
      step = .error failure ∨ ∃ value, step = .ok value ∧ next value = .error failure := by
  cases step with
  | error first =>
      constructor
      · intro same
        cases same
        exact Or.inl rfl
      · rintro (same | ⟨value, none, _⟩)
        · cases same
          rfl
        · cases none
  | ok value =>
      constructor
      · intro ended
        exact Or.inr ⟨value, rfl, ended⟩
      · rintro (none | ⟨_, same, ended⟩)
        · cases none
        · cases same
          exact ended

theorem ok_ne_reject (value : α) (error : LoanError) :
    .ok value ≠ (reject error : Except Failure α) := by
  intro same
  cases same

@[simp]
theorem ok_bind (value : α) (next : α → Except ε β) : (Except.ok value >>= next) = next value :=
  rfl

theorem forM_eq_ok_iff {members : List α} {check : α → Except ε Unit} :
    members.forM check = .ok () ↔ ∀ member ∈ members, check member = .ok () := by
  induction members with
  | nil => simp [pure, Except.pure]
  | cons member members ih =>
      simp only [List.forM_eq_forM] at ih ⊢
      rw [List.forM_cons, bind_eq_ok_iff, ih, List.forall_mem_cons]
      exact ⟨fun ⟨(), first, rest⟩ => ⟨first, rest⟩, fun ⟨first, rest⟩ => ⟨(), first, rest⟩⟩

/-- A step fails on a member of a list and on none before it. -/
def FailsFirst (step : α → Except ε β) (failure : ε) (members : List α) : Prop :=
  ∃ before member after, members = before ++ member :: after ∧
    (∀ earlier ∈ before, ∃ result, step earlier = .ok result) ∧ step member = .error failure

theorem failsFirst_cons_iff {step : α → Except ε β} {failure : ε} {member : α} {members : List α} :
    FailsFirst step failure (member :: members) ↔
      step member = .error failure ∨
        ∃ result, step member = .ok result ∧ FailsFirst step failure members := by
  constructor
  · rintro ⟨before, offender, after, same, sound, failed⟩
    cases before with
    | nil =>
        cases same
        exact Or.inl failed
    | cons first before =>
        cases same
        obtain ⟨result, firstOk⟩ := sound member List.mem_cons_self
        exact Or.inr ⟨result, firstOk, before, offender, after, rfl,
          fun earlier earlierMem => sound earlier (List.mem_cons_of_mem member earlierMem), failed⟩
  · rintro (failed | ⟨result, firstOk, before, offender, after, rfl, sound, failed⟩)
    · exact ⟨[], member, members, rfl, by simp, failed⟩
    · exact ⟨member :: before, offender, after, rfl,
        List.forall_mem_cons.mpr ⟨⟨result, firstOk⟩, sound⟩, failed⟩

theorem not_failsFirst_nil {step : α → Except ε β} {failure : ε} :
    ¬ FailsFirst step failure [] := by
  rintro ⟨before, member, after, none, _⟩
  simp at none

theorem forM_eq_error_iff {members : List α} {check : α → Except ε Unit} {failure : ε} :
    members.forM check = .error failure ↔ FailsFirst check failure members := by
  induction members with
  | nil => simp [pure, Except.pure, not_failsFirst_nil]
  | cons member members ih =>
      simp only [List.forM_eq_forM] at ih ⊢
      rw [List.forM_cons, bind_eq_error_iff, failsFirst_cons_iff, ih]

theorem exists_of_forM_eq_error {members : List α} {check : α → Except ε Unit} {failure : ε}
    (failed : members.forM check = .error failure) :
    ∃ member ∈ members, check member = .error failure := by
  obtain ⟨before, member, after, rfl, _, memberFailed⟩ := forM_eq_error_iff.mp failed
  exact ⟨member, List.mem_append_right before List.mem_cons_self, memberFailed⟩

theorem mapM_eq_error_iff {members : List α} {step : α → Except ε β} {failure : ε} :
    members.mapM step = .error failure ↔ FailsFirst step failure members := by
  induction members with
  | nil => simp [pure, Except.pure, not_failsFirst_nil]
  | cons member members ih =>
      rw [List.mapM_cons, bind_eq_error_iff, failsFirst_cons_iff]
      simp only [bind_eq_error_iff, ih]
      simp [pure, Except.pure]

theorem mapM_eq_ok_iff {members : List α} {step : α → Except ε β} {results : List β} :
    members.mapM step = .ok results ↔
      List.Forall₂ (fun member result => step member = .ok result) members results := by
  induction members generalizing results with
  | nil =>
      cases results <;> simp [pure, Except.pure]
  | cons member members ih =>
      rw [List.mapM_cons, bind_eq_ok_iff]
      constructor
      · rintro ⟨first, firstOk, rest⟩
        rw [bind_eq_ok_iff] at rest
        obtain ⟨others, othersOk, same⟩ := rest
        cases same
        exact .cons firstOk (ih.mp othersOk)
      · intro each
        cases each with
        | cons firstOk othersOk =>
            exact ⟨_, firstOk, by rw [ih.mpr othersOk]; rfl⟩

theorem exists_of_mem_mapM {members : List α} {step : α → Except ε β} {results : List β}
    (mapped : members.mapM step = .ok results) {result : β} (member : result ∈ results) :
    ∃ origin ∈ members, step origin = .ok result := by
  have each := mapM_eq_ok_iff.mp mapped
  clear mapped
  induction each with
  | nil => cases member
  | cons stepOk _ ih =>
      rcases List.mem_cons.mp member with rfl | later
      · exact ⟨_, List.mem_cons_self, stepOk⟩
      · obtain ⟨origin, originMem, originOk⟩ := ih later
        exact ⟨origin, List.mem_cons_of_mem _ originMem, originOk⟩

theorem exists_mem_of_mapM {members : List α} {step : α → Except ε β} {results : List β}
    (mapped : members.mapM step = .ok results) {origin : α} (member : origin ∈ members) :
    ∃ result ∈ results, step origin = .ok result := by
  have each := mapM_eq_ok_iff.mp mapped
  clear mapped
  induction each with
  | nil => cases member
  | cons stepOk _ ih =>
      rcases List.mem_cons.mp member with rfl | later
      · exact ⟨_, List.mem_cons_self, stepOk⟩
      · obtain ⟨result, resultMem, resultOk⟩ := ih later
        exact ⟨result, List.mem_cons_of_mem _ resultMem, resultOk⟩

/-- A list is mapped if its members are, and only then. -/
theorem exists_mapM_iff {members : List α} {step : α → Except ε β} :
    (∃ results, members.mapM step = .ok results) ↔
      ∀ member ∈ members, ∃ result, step member = .ok result := by
  constructor
  · rintro ⟨results, mapped⟩ member memberMem
    obtain ⟨result, _, memberOk⟩ := exists_mem_of_mapM mapped memberMem
    exact ⟨result, memberOk⟩
  · intro each
    cases mapped : members.mapM step with
    | ok results => exact ⟨results, rfl⟩
    | error failure =>
        obtain ⟨before, member, after, rfl, _, failed⟩ := mapM_eq_error_iff.mp mapped
        obtain ⟨result, memberOk⟩ := each member (List.mem_append_right before List.mem_cons_self)
        rw [failed] at memberOk
        cases memberOk

end LoanBook
