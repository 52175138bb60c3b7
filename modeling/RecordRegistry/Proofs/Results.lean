/-
# Results that may be errors

A computation that can fail succeeds exactly if its parts do.  These are the facts about `Except`
that let a success be taken apart into the successes it is made of, and an error be traced back to
the part that it comes from.
-/

import Mathlib.Data.List.Forall2

namespace RecordRegistry

variable {α β γ ε : Type}

@[simp] theorem ok_bind (value : α) (next : α → Except ε β) :
    (Except.ok value >>= next) = next value := rfl

@[simp] theorem error_bind (error : ε) (next : α → Except ε β) :
    (Except.error error >>= next) = .error error := rfl

@[simp] theorem pure_eq_ok (value : α) : (pure value : Except ε α) = .ok value := rfl

@[simp] theorem throw_eq_error (error : ε) : (throw error : Except ε α) = .error error := rfl

@[simp] theorem mapError_ok (value : α) (change : ε → β) :
    (Except.ok value).mapError change = .ok value := rfl

@[simp] theorem mapError_error (error : ε) (change : ε → β) :
    (Except.error error : Except ε α).mapError change = .error (change error) := rfl

theorem mapM_eq_ok_iff {check : α → Except ε β} {list : List α} {values : List β} :
    list.mapM check = .ok values ↔
      List.Forall₂ (fun element value => check element = .ok value) list values := by
  induction list generalizing values with
  | nil =>
      rw [List.mapM_nil, List.forall₂_nil_left_iff]
      constructor
      · rintro ⟨⟩
        rfl
      · rintro rfl
        rfl
  | cons element list ih =>
      rw [List.mapM_cons, List.forall₂_cons_left_iff]
      cases checked : check element with
      | error error =>
          constructor
          · rintro ⟨⟩
          · rintro ⟨_, _, ⟨⟩, -⟩
      | ok value =>
          cases rest : list.mapM check with
          | error error =>
              constructor
              · rintro ⟨⟩
              · rintro ⟨_, others, -, onward, rfl⟩
                rw [ih.mpr onward] at rest
                contradiction
          | ok others =>
              constructor
              · rintro ⟨⟩
                exact ⟨value, others, rfl, ih.mp rest, rfl⟩
              · rintro ⟨_, more, ⟨⟩, onward, rfl⟩
                obtain rfl := Except.ok.inj (rest.symm.trans (ih.mpr onward))
                rfl

/-- What follows for each second one of related elements holds of all of them. -/
theorem forall_mem_of_forall₂ {relation : α → β → Prop} {good : β → Prop} {first : List α}
    {second : List β} (each : ∀ one other, relation one other → good other)
    (related : List.Forall₂ relation first second) : ∀ other ∈ second, good other := by
  induction related with
  | nil => exact List.forall_mem_nil _
  | cons one onward ih => exact List.forall_mem_cons.mpr ⟨each _ _ one, ih⟩

/-- If a list of computations fails, there is a first one that does, and the error is its. -/
theorem exists_of_mapM_eq_error {check : α → Except ε β} {list : List α} {error : ε}
    (failed : list.mapM check = .error error) :
    ∃ before element after, list = before ++ element :: after ∧
      (∀ earlier ∈ before, ∃ value, check earlier = .ok value) ∧ check element = .error error := by
  induction list with
  | nil => cases failed
  | cons first list ih =>
      rw [List.mapM_cons] at failed
      cases checked : check first with
      | error other =>
          rw [checked] at failed
          cases failed
          exact ⟨[], first, list, rfl, List.forall_mem_nil _, checked⟩
      | ok value =>
          have later : list.mapM check = .error error := by
            cases rest : list.mapM check with
            | error other => simpa [checked, rest, bind, Except.bind] using failed
            | ok values => simp [checked, rest, bind, Except.bind, pure, Except.pure] at failed
          obtain ⟨before, element, after, rfl, sound, failed⟩ := ih later
          exact ⟨first :: before, element, after, rfl,
            List.forall_mem_cons.mpr ⟨⟨value, checked⟩, sound⟩, failed⟩

theorem exists_mapM_eq_ok_iff {check : α → Except ε β} {list : List α} :
    (∃ values, list.mapM check = .ok values) ↔
      ∀ element ∈ list, ∃ value, check element = .ok value := by
  cases checked : list.mapM check with
  | ok values =>
      have each := (mapM_eq_ok_iff.mp checked).flip
      exact ⟨fun _ => forall_mem_of_forall₂ (fun value _ found => ⟨value, found⟩) each,
        fun _ => ⟨values, rfl⟩⟩
  | error error =>
      obtain ⟨before, element, after, rfl, -, failed⟩ := exists_of_mapM_eq_error checked
      constructor
      · rintro ⟨_, ⟨⟩⟩
      · intro each
        obtain ⟨value, success⟩ := each element (by simp)
        rw [failed] at success
        contradiction

/-- The error of a list of computations is that of the first one that fails. -/
theorem mapM_eq_error_iff {check : α → Except ε β} {list : List α} {error : ε} :
    list.mapM check = .error error ↔
      ∃ before element after, list = before ++ element :: after ∧
        (∀ earlier ∈ before, ∃ value, check earlier = .ok value) ∧ check element = .error error := by
  refine ⟨exists_of_mapM_eq_error, ?_⟩
  rintro ⟨before, element, after, rfl, sound, failed⟩
  obtain ⟨values, done⟩ := exists_mapM_eq_ok_iff.mpr sound
  rw [List.mapM_append, done, List.mapM_cons, failed]
  rfl

/-- Computations that agree on a list go through it alike. -/
theorem mapM_congr {check other : α → Except ε β} {list : List α}
    (same : ∀ element ∈ list, check element = other element) :
    list.mapM check = list.mapM other := by
  induction list with
  | nil => rfl
  | cons element list ih =>
      obtain ⟨here, later⟩ := List.forall_mem_cons.mp same
      rw [List.mapM_cons, List.mapM_cons, here, ih later]

/-- Lists that are put together can be gone through one by one. -/
theorem mapM_flatMap (parts : γ → List α) (check : α → Except ε β) (list : List γ) :
    (list.flatMap parts).mapM check =
      List.flatten <$> list.mapM fun element => (parts element).mapM check := by
  induction list with
  | nil => rfl
  | cons element list ih =>
      rw [List.flatMap_cons, List.mapM_append, List.mapM_cons, ih]
      cases (parts element).mapM check with
      | error error => rfl
      | ok values =>
          cases list.mapM fun element => (parts element).mapM check with
          | error error => rfl
          | ok others => rfl

theorem mapError_eq_ok_iff {result : Except ε α} {change : ε → β} {value : α} :
    result.mapError change = .ok value ↔ result = .ok value := by
  cases result with
  | error error => simp [Except.mapError]
  | ok other => simp [Except.mapError]

theorem map_eq_error_iff {result : Except ε α} {change : α → β} {error : ε} :
    change <$> result = .error error ↔ result = .error error := by
  cases result <;> simp

theorem bind_eq_ok_iff {result : Except ε α} {next : α → Except ε β} {value : β} :
    result >>= next = .ok value ↔ ∃ first, result = .ok first ∧ next first = .ok value := by
  cases result with
  | error error =>
      constructor
      · rintro ⟨⟩
      · rintro ⟨_, ⟨⟩, -⟩
  | ok first =>
      constructor
      · intro onward
        exact ⟨first, rfl, onward⟩
      · rintro ⟨_, ⟨⟩, onward⟩
        exact onward

theorem mapError_eq_error_iff {result : Except ε α} {change : ε → β} {error : β} :
    result.mapError change = .error error ↔ ∃ cause, result = .error cause ∧ change cause = error := by
  cases result with
  | error cause => simp [Except.mapError]
  | ok value => simp [Except.mapError]

/-- What does not succeed fails with the error that is put in place of its own. -/
theorem mapError_of_refused {result : Except ε α} (refused : ¬ ∃ value, result = .ok value)
    (error : β) : (result.mapError fun _ => error) = .error error := by
  cases result with
  | error cause => rfl
  | ok value => exact absurd ⟨value, rfl⟩ refused

theorem bind_eq_error_iff {result : Except ε α} {next : α → Except ε β} {error : ε} :
    result >>= next = .error error ↔
      result = .error error ∨ ∃ first, result = .ok first ∧ next first = .error error := by
  cases result with
  | error other => simp [bind, Except.bind]
  | ok first => simp [bind, Except.bind]

theorem toOption_eq_some_iff {result : Except ε α} {value : α} :
    result.toOption = some value ↔ result = .ok value := by
  cases result <;> simp [Except.toOption]

theorem exists_eq_ok_of_isOk {result : Except ε α} (succeeds : result.isOk = true) :
    ∃ value, result = .ok value := by
  cases result with
  | ok value => exact ⟨value, rfl⟩
  | error error => simp [Except.isOk, Except.toBool] at succeeds

end RecordRegistry
